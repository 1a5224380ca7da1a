import RcOnline.Lib.OrdSet
import RcOnline.Lib.Steps

/-!
# Viewer counts

`ViewerPresence` of `apps/gateway/src/viewer-presence.ts`: the sockets that watch, and the count
that each of them is sent when one comes or goes. A broadcast deletes the sockets that it finds
closed or that throw, and starts again after a throw; every round before the last one deletes a
socket, so there is a last one (`broadcast_finishes`), and in it every socket left is sent the final
count.
-/

namespace RcOnline.Gateway

open RcOnline.Lib

/-- What a presence does, in order. -/
inductive ViewerEvent (σ : Type*) where
  | attached (socket : σ)
  | detached (socket : σ)
  /-- The socket was found in a state other than `OPEN`. -/
  | closed (socket : σ)
  /-- A `viewer.count` message was made of these sockets' number. -/
  | counted (members : List σ)
  | sent (socket : σ) (count : Nat)
  | threw (socket : σ) (count : Nat)

namespace ViewerEvent

variable {σ : Type*}

/-- The event shows that the socket is closed or throws. -/
def Fails : ViewerEvent σ → σ → Prop
  | .closed other, socket => other = socket
  | .threw other _, socket => other = socket
  | _, _ => False

/-- The socket is counted in the event, or sent to. -/
def Concerns : ViewerEvent σ → σ → Prop
  | .counted members, socket => socket ∈ members
  | .sent other _, socket => other = socket
  | .threw other _, socket => other = socket
  | _, _ => False

/-- The count that the socket receives. -/
def received? [DecidableEq σ] (socket : σ) : ViewerEvent σ → Option Nat
  | .sent other count => if other = socket then some count else none
  | _ => none

end ViewerEvent

/-- A function that `attach` returned. -/
inductive Detacher (σ : Type*) where
  | noop
  | detach (socket : σ) (detached : Bool)

/-- The presence, the state of every socket, and the functions that `attach` returned. -/
structure ViewerPresence (σ : Type*) where
  sockets : OrdSet σ
  readyState : σ → Int
  detachers : List (Detacher σ)
  /-- The sends so far. -/
  sends : Nat
  events : List (ViewerEvent σ)

inductive ViewerOp (σ : Type*) where
  | attach (socket : σ)
  /-- The function is called that the `index`-th attach returned. -/
  | detach (index : Nat)
  /-- Between two calls a socket may change its state. -/
  | change (socket : σ) (readyState : Int)

namespace ViewerPresence

variable {σ : Type*}

/-- No socket is registered. -/
def initial (readyState : σ → Int) : ViewerPresence σ where
  sockets := ∅
  readyState := readyState
  detachers := []
  sends := 0
  events := []

section calls

variable [DecidableEq σ]

-- What `OPEN` is of each socket, and what becomes of each send: it may throw and then leave its own
-- socket in any state.
variable (openState : σ → Int) (outcome : Nat → Option Int)

def isOpen (p : ViewerPresence σ) (socket : σ) : Bool := p.readyState socket = openState socket

def count (p : ViewerPresence σ) : Nat := p.sockets.size

/-- The first loop of `#broadcast`. -/
def dropClosed (p : ViewerPresence σ) : ViewerPresence σ :=
  { p with
    sockets := p.sockets.filter (p.isOpen openState)
    events := p.events ++
      (p.sockets.elems.filter fun socket => !p.isOpen openState socket).map .closed }

/-- `socket.send(message)`, and whether it threw. -/
def send (p : ViewerPresence σ) (socket : σ) (count : Nat) : Bool × ViewerPresence σ :=
  match outcome p.sends with
  | none => (false, { p with sends := p.sends + 1, events := p.events ++ [.sent socket count] })
  | some readyState =>
    (true,
      { p with
        sockets := p.sockets.delete socket
        readyState := Function.update p.readyState socket readyState
        sends := p.sends + 1
        events := p.events ++ [.threw socket count] })

/-- The second loop: it deletes no socket but the one it is at. -/
def sendAll (count : Nat) : List σ → ViewerPresence σ → Bool × ViewerPresence σ
  | [], p => (false, p)
  | socket :: rest, p =>
    let (threw, p) := p.send outcome socket count
    let (removed, p) := sendAll count rest p
    (threw || removed, p)

/-- What `#broadcast` does before it calls itself again. -/
def round (p : ViewerPresence σ) : Bool × ViewerPresence σ :=
  let p := p.dropClosed openState
  let p := { p with events := p.events ++ [.counted p.sockets.elems] }
  sendAll outcome p.count p.sockets.elems p

/-- `#broadcast`, where it takes no more than some number of rounds. -/
def broadcast : Nat → ViewerPresence σ → Option (ViewerPresence σ)
  | 0, _ => none
  | rounds + 1, p =>
    let (removed, p) := p.round openState outcome
    if removed then broadcast rounds p else some p

def attach (rounds : Nat) (p : ViewerPresence σ) (socket : σ) : Option (ViewerPresence σ) :=
  if !p.isOpen openState socket then some { p with detachers := p.detachers ++ [.noop] }
  else
    broadcast openState outcome rounds
      { p with
        sockets := p.sockets.add socket
        detachers := p.detachers ++ [.detach socket false]
        events := p.events ++ [.attached socket] }

/-- The function that the `index`-th attach returned. -/
def detach (rounds : Nat) (p : ViewerPresence σ) (index : Nat) : Option (ViewerPresence σ) :=
  match p.detachers[index]? with
  | some (.detach socket false) =>
    let p := { p with detachers := p.detachers.set index (.detach socket true) }
    if socket ∉ p.sockets then some p
    else
      broadcast openState outcome rounds
        { p with
          sockets := p.sockets.delete socket
          events := p.events ++ [.detached socket] }
  | _ => some p

def perform (rounds : Nat) (p : ViewerPresence σ) : ViewerOp σ → Option (ViewerPresence σ)
  | .attach socket => attach openState outcome rounds p socket
  | .detach index => detach openState outcome rounds p index
  | .change socket readyState =>
    some { p with readyState := Function.update p.readyState socket readyState }

/-- The operation returns, in the state `q`. -/
def Finishes (p : ViewerPresence σ) (op : ViewerOp σ) (q : ViewerPresence σ) : Prop :=
  ∃ rounds, perform openState outcome rounds p op = some q

end calls

/-! ## Failures -/

/-- The socket was found closed or throwing, and has not been attached since. -/
def Gone (events : List (ViewerEvent σ)) (socket : σ) : Prop :=
  ∃ before failure after, events = before ++ failure :: after ∧ failure.Fails socket ∧
    .attached socket ∉ after

section failures

variable {events : List (ViewerEvent σ)} {event : ViewerEvent σ} {socket : σ}

theorem gone_snoc : Gone (events ++ [event]) socket ↔
    event.Fails socket ∨ Gone events socket ∧ event ≠ .attached socket := by
  constructor
  · rintro ⟨before, failure, after, heq, hfails, hafter⟩
    rcases List.eq_nil_or_concat' after with rfl | ⟨after, last, rfl⟩
    · obtain ⟨-, hlast⟩ := List.append_inj' heq rfl
      obtain rfl := List.singleton_inj.1 hlast
      exact .inl hfails
    · rw [← List.cons_append, ← List.append_assoc] at heq
      obtain ⟨rfl, hlast⟩ := List.append_inj' heq rfl
      obtain rfl := List.singleton_inj.1 hlast
      simp only [List.mem_append, List.mem_singleton, not_or] at hafter
      exact .inr ⟨⟨before, failure, after, rfl, hfails, hafter.1⟩, Ne.symm hafter.2⟩
  · rintro (hfails | ⟨⟨before, failure, after, rfl, hfails, hafter⟩, hother⟩)
    · exact ⟨events, event, [], rfl, hfails, List.not_mem_nil⟩
    · refine ⟨before, failure, after ++ [event], by simp, hfails, ?_⟩
      simp [hafter, Ne.symm hother]

/-- Sockets are found closed. -/
theorem gone_closed {found : List σ} :
    Gone (events ++ found.map .closed) socket ↔ socket ∈ found ∨ Gone events socket := by
  induction found using List.reverseRecOn with
  | nil => simp
  | append_singleton found last ih =>
    rw [List.map_append, ← List.append_assoc, List.map_singleton, gone_snoc, ih]
    simp only [ViewerEvent.Fails, List.mem_append, List.mem_singleton, ne_eq, reduceCtorEq,
      not_false_eq_true, and_true]
    constructor
    · rintro (rfl | hmem | hgone)
      · exact .inl (.inr rfl)
      · exact .inl (.inl hmem)
      · exact .inr hgone
    · rintro ((hmem | rfl) | hgone)
      · exact .inr (.inl hmem)
      · exact .inl rfl
      · exact .inr (.inr hgone)

end failures

/-- No socket that failed is registered, and none has been counted or sent to since. -/
structure Clean (p : ViewerPresence σ) : Prop where
  sockets : ∀ socket ∈ p.sockets, ¬ Gone p.events socket
  events :
    Each (fun before event => ∀ socket, event.Concerns socket → ¬ Gone before socket) p.events

theorem clean_initial (readyState : σ → Int) : Clean (initial readyState) :=
  ⟨fun _ h => absurd h (OrdSet.notMem_empty _), Each.nil⟩

/-- One event more: it is about registered sockets, and a socket that fails in it is not registered
any more. -/
theorem Clean.snoc {p q : ViewerPresence σ} (h : Clean p) {event : ViewerEvent σ}
    (hevents : q.events = p.events ++ [event])
    (hconcerns : ∀ socket, event.Concerns socket → socket ∈ p.sockets)
    (hsockets : ∀ socket ∈ q.sockets,
      ¬ event.Fails socket ∧ (socket ∈ p.sockets ∨ event = .attached socket)) : Clean q where
  sockets := by
    intro socket hsocket
    obtain ⟨hfails, hmem⟩ := hsockets socket hsocket
    rw [hevents, gone_snoc]
    rintro (hevent | ⟨hgone, hother⟩)
    · exact hfails hevent
    · rcases hmem with hmem | hattached
      · exact h.sockets socket hmem hgone
      · exact hother hattached
  events := by
    rw [hevents]
    exact h.events.snoc fun socket hevent => h.sockets socket (hconcerns socket hevent)

/-! ## A broadcast -/

theorem clean_dropClosed {openState : σ → Int} {p : ViewerPresence σ} (h : Clean p) :
    Clean (p.dropClosed openState) where
  sockets := by
    intro socket hsocket
    obtain ⟨hmem, hopen⟩ := OrdSet.mem_filter.1 hsocket
    change ¬ Gone (p.events ++ _) socket
    rw [gone_closed]
    rintro (hfound | hgone)
    · simp [hopen] at hfound
    · exact h.sockets socket hmem hgone
  events := by
    refine h.events.append fun before event after heq socket hconcerns => ?_
    have hmem := (List.mem_append_right before List.mem_cons_self : event ∈ _ ++ event :: after)
    rw [← heq] at hmem
    obtain ⟨found, -, rfl⟩ := List.mem_map.1 hmem
    exact hconcerns.elim

section delivery

variable [DecidableEq σ] {openState : σ → Int} {outcome : Nat → Option Int}

/-- What the second loop of a broadcast does with the sockets `rest`. -/
structure SendsAll (p : ViewerPresence σ) (count : Nat) (rest : List σ) (removed : Bool)
    (q : ViewerPresence σ) (new : List (ViewerEvent σ)) : Prop where
  events : q.events = p.events ++ new
  sockets : ∀ socket ∈ q.sockets, socket ∈ p.sockets
  threw : ∀ socket n, .threw socket n ∈ new → socket ∉ q.sockets
  clean : Clean p → Clean q
  kept : removed = false → q.sockets = p.sockets ∧ q.readyState = p.readyState ∧
    new = rest.map (.sent · count)
  fewer : removed = true → q.sockets.size < p.sockets.size

theorem sendAll_spec (outcome : Nat → Option Int) (count : Nat) {rest : List σ}
    {p : ViewerPresence σ} (hnodup : rest.Nodup)
    (hrest : ∀ socket ∈ rest, socket ∈ p.sockets) :
    ∃ new, SendsAll p count rest (sendAll outcome count rest p).1
      (sendAll outcome count rest p).2 new := by
  induction rest generalizing p with
  | nil =>
    refine ⟨[], ?_⟩
    constructor <;> simp [sendAll]
  | cons socket rest ih =>
    obtain ⟨hsocket, hnodup⟩ := List.nodup_cons.1 hnodup
    have hmem : socket ∈ p.sockets := hrest socket List.mem_cons_self
    simp only [sendAll, send]
    cases hout : outcome p.sends with
    | none =>
      dsimp only
      obtain ⟨new, hnew⟩ := ih (p := { p with
        sends := p.sends + 1, events := p.events ++ [.sent socket count] }) hnodup
        fun other hother => hrest other (List.mem_cons_of_mem _ hother)
      refine ⟨.sent socket count :: new, ?_, hnew.sockets, ?_, ?_, ?_, ?_⟩
      · rw [hnew.events, List.append_assoc]
        rfl
      · intro other n hthrew
        simp only [List.mem_cons, reduceCtorEq, false_or] at hthrew
        exact hnew.threw other n hthrew
      · intro hclean
        refine hnew.clean (hclean.snoc rfl ?_ fun other hother => ⟨?_, .inl hother⟩)
        · rintro other rfl
          exact hmem
        · simp [ViewerEvent.Fails]
      · intro hremoved
        rw [Bool.false_or] at hremoved
        obtain ⟨hsockets, hstate, heq⟩ := hnew.kept hremoved
        exact ⟨hsockets, hstate, by rw [heq, List.map_cons]⟩
      · intro hremoved
        rw [Bool.false_or] at hremoved
        exact hnew.fewer hremoved
    | some readyState =>
      dsimp only
      obtain ⟨new, hnew⟩ := ih (p := { p with
        sockets := p.sockets.delete socket
        readyState := Function.update p.readyState socket readyState
        sends := p.sends + 1
        events := p.events ++ [.threw socket count] }) hnodup (by
          intro other hother
          refine OrdSet.mem_delete.2 ⟨?_, hrest other (List.mem_cons_of_mem _ hother)⟩
          rintro rfl
          exact hsocket hother)
      have hsize := OrdSet.size_delete hmem
      refine ⟨.threw socket count :: new, ?_, ?_, ?_, ?_, ?_, ?_⟩
      · rw [hnew.events, List.append_assoc]
        rfl
      · intro other hother
        exact (OrdSet.mem_delete.1 (hnew.sockets other hother)).2
      · intro other n hthrew hother
        rcases List.mem_cons.1 hthrew with heq | hthrew
        · cases heq
          exact (OrdSet.mem_delete.1 (hnew.sockets _ hother)).1 rfl
        · exact hnew.threw other n hthrew hother
      · intro hclean
        refine hnew.clean (hclean.snoc rfl ?_ fun other hother => ?_)
        · rintro other rfl
          exact hmem
        · obtain ⟨hother, hregistered⟩ := OrdSet.mem_delete.1 hother
          exact ⟨Ne.symm hother, .inl hregistered⟩
      · intro hremoved
        cases hremoved
      · intro _
        cases hlater : (sendAll outcome count rest { p with
          sockets := p.sockets.delete socket
          readyState := Function.update p.readyState socket readyState
          sends := p.sends + 1
          events := p.events ++ [.threw socket count] }).1 with
        | true =>
          have hfewer := hnew.fewer hlater
          dsimp only at hfewer
          omega
        | false =>
          rw [(hnew.kept hlater).1]
          dsimp only
          omega

/-- After a broadcast every registered socket is open and has been sent the number of them. -/
structure Delivers (openState : σ → Int) (p q : ViewerPresence σ) (new : List (ViewerEvent σ)) :
    Prop where
  events : q.events = p.events ++ new
  sockets : ∀ socket ∈ q.sockets, socket ∈ p.sockets
  isOpen : ∀ socket ∈ q.sockets, q.isOpen openState socket = true
  threw : ∀ socket ∈ q.sockets, ∀ n, .threw socket n ∉ new
  received : ∀ socket ∈ q.sockets,
    (new.filterMap (ViewerEvent.received? socket)).getLast? = some q.count
  clean : Clean p → Clean q

/-- The members of a list receive the message that is sent to each of them once. -/
theorem received_map {sockets : List σ} {socket : σ} (hnodup : sockets.Nodup)
    (hmem : socket ∈ sockets) (count : Nat) :
    (sockets.map (.sent · count)).filterMap (ViewerEvent.received? socket) = [count] := by
  induction sockets with
  | nil => cases hmem
  | cons other sockets ih =>
    obtain ⟨hother, hnodup⟩ := List.nodup_cons.1 hnodup
    by_cases heq : other = socket
    · subst heq
      have hnone : (sockets.map (.sent · count)).filterMap (ViewerEvent.received? other) = [] := by
        rw [List.filterMap_eq_nil_iff]
        intro event hevent
        obtain ⟨next, hnext, rfl⟩ := List.mem_map.1 hevent
        have hne : next ≠ other := fun h => hother (h ▸ hnext)
        simp [ViewerEvent.received?, hne]
      rw [List.map_cons, List.filterMap_cons_some (b := count) (by simp [ViewerEvent.received?]),
        hnone]
    · rw [List.map_cons, List.filterMap_cons_none (by simp [ViewerEvent.received?, heq])]
      exact ih hnodup ((List.mem_cons.1 hmem).resolve_left (Ne.symm heq))

/-- The sockets before a round that does not deliver, and after it. -/
structure Retries (p q : ViewerPresence σ) (new : List (ViewerEvent σ)) : Prop where
  events : q.events = p.events ++ new
  sockets : ∀ socket ∈ q.sockets, socket ∈ p.sockets
  fewer : q.sockets.size < p.sockets.size
  threw : ∀ socket ∈ q.sockets, ∀ n, .threw socket n ∉ new
  clean : Clean p → Clean q

/-- A round delivers, or leaves fewer sockets. -/
theorem round_cases (openState : σ → Int) (outcome : Nat → Option Int) (p : ViewerPresence σ) :
    (∃ q new, p.round openState outcome = (false, q) ∧ Delivers openState p q new) ∨
    ∃ q new, p.round openState outcome = (true, q) ∧ Retries p q new := by
  let dropped := p.dropClosed openState
  let counted : ViewerPresence σ :=
    { dropped with events := dropped.events ++ [.counted dropped.sockets.elems] }
  have hround : p.round openState outcome =
      sendAll outcome counted.count counted.sockets.elems counted := rfl
  obtain ⟨new, hnew⟩ := sendAll_spec outcome counted.count counted.sockets.nodup
    (p := counted) fun socket hsocket => hsocket
  have hsubset : ∀ socket ∈ counted.sockets,
      socket ∈ p.sockets ∧ p.isOpen openState socket = true :=
    fun socket hsocket => OrdSet.mem_filter.1 hsocket
  have hclean : Clean p → Clean counted := fun h =>
    (clean_dropClosed h).snoc rfl (fun socket hsocket => hsocket) fun socket hsocket =>
      ⟨fun hfails => False.elim hfails, .inl hsocket⟩
  let closed := (p.sockets.elems.filter fun socket => !p.isOpen openState socket).map
    (ViewerEvent.closed (σ := σ))
  have hevents : counted.events = p.events ++ (closed ++ [.counted counted.sockets.elems]) :=
    List.append_assoc _ _ _
  have hthrew : ∀ socket n, .threw socket n ∈ closed ++ [.counted counted.sockets.elems] ++ new →
      .threw socket n ∈ new := by
    intro socket n hmem
    simpa [closed] using hmem
  rw [hround]
  generalize sendAll outcome counted.count counted.sockets.elems counted = sent at hnew
  obtain ⟨removed, q⟩ := sent
  have hevents : q.events = p.events ++ (closed ++ [.counted counted.sockets.elems] ++ new) := by
    rw [hnew.events, hevents, List.append_assoc]
  cases removed with
  | false =>
    obtain ⟨hsockets, hstate, rfl⟩ := hnew.kept rfl
    refine .inl ⟨q, _, rfl, hevents, fun socket hsocket => ?_, fun socket hsocket => ?_,
      fun socket hsocket n hmem => ?_, fun socket hsocket => ?_, hnew.clean ∘ hclean⟩
    · exact (hsubset socket (hnew.sockets socket hsocket)).1
    · rw [isOpen, hstate]
      exact (hsubset socket (hnew.sockets socket hsocket)).2
    · exact hnew.threw socket n (hthrew socket n hmem) hsocket
    · have hlast := received_map counted.sockets.nodup (hnew.sockets socket hsocket) counted.count
      rw [List.filterMap_append, hlast, List.getLast?_append, List.getLast?_singleton,
        Option.some_or, count, count, hsockets]
  | true =>
    refine .inr ⟨q, _, rfl, hevents, fun socket hsocket => ?_, ?_,
      fun socket hsocket n hmem => ?_, hnew.clean ∘ hclean⟩
    · exact (hsubset socket (hnew.sockets socket hsocket)).1
    · exact (hnew.fewer rfl).trans_le (p.sockets.size_filter_le _)
    · exact hnew.threw socket n (hthrew socket n hmem) hsocket

theorem Retries.delivers {p q r : ViewerPresence σ} {new later : List (ViewerEvent σ)}
    (h : Retries p q new) (h' : Delivers openState q r later) :
    Delivers openState p r (new ++ later) where
  events := by rw [h'.events, h.events, List.append_assoc]
  sockets := fun socket hsocket => h.sockets socket (h'.sockets socket hsocket)
  isOpen := h'.isOpen
  threw := by
    intro socket hsocket n hmem
    rcases List.mem_append.1 hmem with hmem | hmem
    · exact h.threw socket (h'.sockets socket hsocket) n hmem
    · exact h'.threw socket hsocket n hmem
  received := by
    intro socket hsocket
    rw [List.filterMap_append, List.getLast?_append, h'.received socket hsocket, Option.some_or]
  clean := h'.clean ∘ h.clean

/-- Every round but the last deletes a socket, so there is a last one. -/
theorem broadcast_finishes (openState : σ → Int) (outcome : Nat → Option Int) (rounds : Nat)
    {p : ViewerPresence σ} (h : p.sockets.size < rounds) :
    ∃ q new, broadcast openState outcome rounds p = some q ∧ Delivers openState p q new := by
  induction rounds generalizing p with
  | zero => omega
  | succ rounds ih =>
    rcases round_cases openState outcome p with
      ⟨q, new, hround, hdelivers⟩ | ⟨q, new, hround, hretries⟩
    · exact ⟨q, new, by simp [broadcast, hround], hdelivers⟩
    · have hfewer := hretries.fewer
      obtain ⟨r, later, hbroadcast, hdelivers⟩ := ih (p := q) (by omega)
      exact ⟨r, new ++ later, by simp [broadcast, hround, hbroadcast], hretries.delivers hdelivers⟩

/-- More rounds than it takes change nothing. -/
theorem broadcast_mono {rounds : Nat} {p q : ViewerPresence σ}
    (h : broadcast openState outcome rounds p = some q) (more : Nat) :
    broadcast openState outcome (rounds + more) p = some q := by
  induction rounds generalizing p with
  | zero => cases h
  | succ rounds ih =>
    rw [Nat.succ_add, broadcast]
    rw [broadcast] at h
    cases hremoved : (p.round openState outcome).1 with
    | true =>
      simp only [hremoved, if_true] at h ⊢
      exact ih h
    | false =>
      simp only [hremoved, Bool.false_eq_true, if_false] at h ⊢
      exact h

end delivery

/-! ## Operations -/

section operations

variable [DecidableEq σ] {openState : σ → Int} {outcome : Nat → Option Int}

/-- What an operation is to the presence: nothing happens, or every socket that is registered after
it is open and was last sent the number of them. -/
structure Agrees (openState : σ → Int) (p q : ViewerPresence σ) (new : List (ViewerEvent σ)) :
    Prop where
  events : q.events = p.events ++ new
  counts : q.sockets ≠ p.sockets ∨ new ≠ [] → ∀ socket ∈ q.sockets,
    q.readyState socket = openState socket ∧ (∀ n, .threw socket n ∉ new) ∧
      (new.filterMap (ViewerEvent.received? socket)).getLast? = some q.count
  clean : Clean p → Clean q

theorem Agrees.idle {p q : ViewerPresence σ} (hevents : q.events = p.events)
    (hsockets : q.sockets = p.sockets) : Agrees openState p q [] where
  events := by rw [hevents, List.append_nil]
  counts := by
    rintro (hchanged | hnew)
    · exact absurd hsockets hchanged
    · exact absurd rfl hnew
  clean := fun h => ⟨by rw [hevents, hsockets]; exact h.sockets, by rw [hevents]; exact h.events⟩

/-- A socket is added or removed, and the count is broadcast. -/
theorem Agrees.broadcast {p q r : ViewerPresence σ} {event : ViewerEvent σ}
    {new : List (ViewerEvent σ)} (hevents : q.events = p.events ++ [event])
    (hthrew : ∀ socket n, event ≠ .threw socket n) (hclean : Clean p → Clean q)
    (h : Delivers openState q r new) : Agrees openState p r (event :: new) where
  events := by
    rw [h.events, hevents, List.append_assoc]
    rfl
  counts := by
    intro _ socket hsocket
    refine ⟨of_decide_eq_true (h.isOpen socket hsocket), fun n hmem => ?_, ?_⟩
    · rcases List.mem_cons.1 hmem with heq | hmem
      · exact hthrew socket n heq.symm
      · exact h.threw socket hsocket n hmem
    · rw [← List.singleton_append, List.filterMap_append, List.getLast?_append,
        h.received socket hsocket, Option.some_or]
  clean := h.clean ∘ hclean

theorem size_add_le (s : OrdSet σ) (socket : σ) : (s.add socket).size ≤ s.size + 1 := by
  unfold OrdSet.add
  split
  · omega
  · simp [OrdSet.size]

theorem perform_agrees (openState : σ → Int) (outcome : Nat → Option Int) {rounds : Nat}
    {p : ViewerPresence σ} (h : p.sockets.size + 1 < rounds) (op : ViewerOp σ) :
    ∃ q new, perform openState outcome rounds p op = some q ∧ Agrees openState p q new := by
  cases op with
  | attach socket =>
    simp only [perform, attach]
    split
    · exact ⟨_, [], rfl, .idle rfl rfl⟩
    · have hsize := size_add_le p.sockets socket
      obtain ⟨q, new, hbroadcast, hdelivers⟩ :=
        broadcast_finishes openState outcome rounds
          (p := { p with
            sockets := p.sockets.add socket
            detachers := p.detachers ++ [.detach socket false]
            events := p.events ++ [.attached socket] }) (by dsimp only; omega)
      refine ⟨q, _, hbroadcast, .broadcast rfl (fun _ _ heq => by cases heq) ?_ hdelivers⟩
      refine fun hclean => hclean.snoc rfl (fun _ hconcerns => False.elim hconcerns) ?_
      intro other hother
      refine ⟨fun hfails => False.elim hfails, ?_⟩
      rcases OrdSet.mem_add.1 hother with rfl | hmem
      · exact .inr rfl
      · exact .inl hmem
  | detach index =>
    simp only [perform, detach]
    split
    · next socket hdetacher =>
      split
      · exact ⟨_, [], rfl, .idle rfl rfl⟩
      · next hmem =>
        have hsize := OrdSet.size_delete (not_not.1 hmem)
        obtain ⟨q, new, hbroadcast, hdelivers⟩ :=
          broadcast_finishes openState outcome rounds
            (p := { p with
              sockets := p.sockets.delete socket
              detachers := p.detachers.set index (.detach socket true)
              events := p.events ++ [.detached socket] }) (by dsimp only; omega)
        refine ⟨q, _, hbroadcast, .broadcast rfl (fun _ _ heq => by cases heq) ?_ hdelivers⟩
        refine fun hclean => hclean.snoc rfl (fun _ hconcerns => False.elim hconcerns) ?_
        intro other hother
        exact ⟨fun hfails => False.elim hfails, .inl (OrdSet.mem_delete.1 hother).2⟩
    · exact ⟨_, [], rfl, .idle rfl rfl⟩
  | change socket readyState => exact ⟨_, [], rfl, .idle rfl rfl⟩

theorem perform_mono {rounds : Nat} {p q : ViewerPresence σ} {op : ViewerOp σ}
    (h : perform openState outcome rounds p op = some q) (more : Nat) :
    perform openState outcome (rounds + more) p op = some q := by
  cases op with
  | attach socket =>
    simp only [perform, attach] at h ⊢
    split at h
    · next hclosed => rwa [if_pos hclosed]
    · next hopen =>
      rw [if_neg hopen]
      exact broadcast_mono h more
  | detach index =>
    simp only [perform, detach] at h ⊢
    split at h
    · split at h
      · next habsent => rwa [if_pos habsent]
      · next hpresent =>
        rw [if_neg hpresent]
        exact broadcast_mono h more
    · exact h
  | change socket readyState => exact h

theorem Finishes.unique {p q q' : ViewerPresence σ} {op : ViewerOp σ}
    (h : Finishes openState outcome p op q) (h' : Finishes openState outcome p op q') : q' = q := by
  obtain ⟨rounds, hq⟩ := h
  obtain ⟨rounds', hq'⟩ := h'
  have hleft := perform_mono hq rounds'
  have hright := perform_mono hq' rounds
  rw [Nat.add_comm, hleft] at hright
  exact (Option.some.inj hright).symm

/-- Every operation returns, in one state. -/
theorem exists_finishes (openState : σ → Int) (outcome : Nat → Option Int) (p : ViewerPresence σ)
    (op : ViewerOp σ) :
    ∃ q new, Finishes openState outcome p op q ∧ Agrees openState p q new := by
  obtain ⟨q, new, hperform, hagrees⟩ :=
    perform_agrees openState outcome (Nat.lt_succ_self (p.sockets.size + 1)) op
  exact ⟨q, new, ⟨_, hperform⟩, hagrees⟩

/-- The operations of a run, one after the other. -/
def Runs (openState : σ → Int) (outcome : Nat → Option Int) (readyState : σ → Int)
    (ops : List (ViewerOp σ)) (p : ViewerPresence σ) : Prop :=
  Run (Finishes openState outcome) (initial readyState) ops p

theorem exists_runs (openState : σ → Int) (outcome : Nat → Option Int) (readyState : σ → Int)
    (ops : List (ViewerOp σ)) :
    ∃ p, Runs openState outcome readyState ops p ∧
      (∀ p', Runs openState outcome readyState ops p' → p' = p) ∧ Clean p := by
  induction ops using List.reverseRecOn with
  | nil => exact ⟨_, .nil, fun p' h => h.eq_start, clean_initial readyState⟩
  | append_singleton ops op ih =>
    obtain ⟨p, hruns, hunique, hclean⟩ := ih
    obtain ⟨q, new, hfinishes, hagrees⟩ := exists_finishes openState outcome p op
    refine ⟨q, hruns.snoc hfinishes, fun q' h => ?_, hagrees.clean hclean⟩
    obtain ⟨p', hruns', hfinishes'⟩ := h.last
    obtain rfl := hunique p' hruns'
    exact hfinishes.unique hfinishes'

/-- **Main result.** Whatever the sockets do between the operations and whichever sends throw, every
operation of a run returns. After one that changes the set or sends anything, every registered
socket is open, and the last count that it was sent meanwhile, with no throw, is the number of them.
A socket that was found closed or throwing is not registered, counted or sent to until it is
attached again. -/
theorem counts_agree (openState : σ → Int) (outcome : Nat → Option Int) (readyState : σ → Int)
    (ops : List (ViewerOp σ)) (op : ViewerOp σ) :
    ∃ p, Runs openState outcome readyState ops p ∧
      (∀ p', Runs openState outcome readyState ops p' → p' = p) ∧
      ∃ q, Finishes openState outcome p op q ∧
        (∀ q', Finishes openState outcome p op q' → q' = q) ∧
        ∃ new, Agrees openState p q new ∧ Clean q := by
  obtain ⟨p, hruns, hunique, hclean⟩ := exists_runs openState outcome readyState ops
  obtain ⟨q, new, hfinishes, hagrees⟩ := exists_finishes openState outcome p op
  exact ⟨p, hruns, hunique, q, hfinishes, fun q' h => hfinishes.unique h, new, hagrees,
    hagrees.clean hclean⟩

/-- A send that throws is followed by a second round, with the count that is then right. -/
example :
    let p := (perform (fun _ : Fin 2 => 1) (fun send => if send = 2 then some 3 else none) 3
      (initial fun _ => 1) (.attach 0)).bind fun p =>
        perform (fun _ => 1) (fun send => if send = 2 then some 3 else none) 3 p (.attach 1)
    p.map (fun p => p.events.filterMap (ViewerEvent.received? 0)) = some [1, 2, 1] := by decide

end operations

end ViewerPresence

end RcOnline.Gateway
