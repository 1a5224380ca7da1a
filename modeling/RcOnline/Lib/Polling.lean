import Mathlib

/-!
# A polling loop

A loop that polls, waits for the answer and polls again after a delay. It can be stopped and started
while a poll is under way, so each start has a generation, and an answer is taken only by the
generation that asked. `Sound` is what every operation keeps: one timer or one poll of the current
generation at most, and none of a stopped loop. `Alive` adds that a loop that runs has one, which
only an answer that is not taken (`settle`, where `continues` is false) can break.
-/

namespace RcOnline.Lib

/-- A pending timer, under the handle that cancels it. -/
structure PollTimer where
  handle : Nat
  generation : Nat

/-- `current` is the handle that the loop remembers, `polls` has the generations of the polls that
are not answered. -/
structure Polling where
  current : Option Nat
  generation : Nat
  running : Bool
  timers : List PollTimer
  nextHandle : Nat
  polls : List Nat

namespace Polling

variable (loop : Polling)

def idle : Polling :=
  { current := none, generation := 0, running := false, timers := [], nextHandle := 0, polls := [] }

def schedule : Polling :=
  { loop with
    current := some loop.nextHandle
    timers := loop.timers ++ [⟨loop.nextHandle, loop.generation⟩]
    nextHandle := loop.nextHandle + 1 }

def start : Polling :=
  if loop.running then loop
  else { loop with running := true, generation := loop.generation + 1 }.schedule

def stop : Polling :=
  { loop with
    generation := loop.generation + 1
    running := false
    timers := loop.timers.filter fun timer => some timer.handle ≠ loop.current
    current := none }

/-- A timer fires: its poll goes out. -/
def fire (handle : Nat) : Option Polling :=
  (loop.timers.find? (·.handle = handle)).map fun timer =>
    { loop with
      timers := loop.timers.filter (·.handle ≠ handle)
      polls := loop.polls ++ [timer.generation] }

/-- A poll is answered; the loop goes on where the answer is taken. -/
def settle (place : Nat) (continues : Bool) : Polling :=
  if continues then { loop with polls := loop.polls.eraseIdx place }.schedule
  else { loop with polls := loop.polls.eraseIdx place }

/-- The timers and the polls of the current generation. -/
def pending : Nat := loop.timers.length + loop.polls.count loop.generation

structure Sound : Prop where
  timer : ∀ timer ∈ loop.timers,
    loop.current = some timer.handle ∧ timer.generation = loop.generation
  past : ∀ generation ∈ loop.polls, generation ≤ loop.generation
  one : loop.pending ≤ 1
  stopped : loop.running = false → loop.pending = 0

/-- A running loop has something to wait for. -/
def Alive : Prop := loop.running = true → loop.pending = 1

variable {loop : Polling}

theorem sound_idle : Sound idle where
  timer timer h := by cases h
  past generation h := by cases h
  one := Nat.zero_le 1
  stopped _ := rfl

/-- One timer more, of the current generation. -/
theorem pending_schedule (loop : Polling) : loop.schedule.pending = loop.pending + 1 := by
  simp only [pending, schedule, List.length_append, List.length_singleton]
  omega

theorem timers_eq_nil (hzero : loop.pending = 0) : loop.timers = [] :=
  List.eq_nil_of_length_eq_zero (Nat.eq_zero_of_add_eq_zero_right hzero)

namespace Sound

/-- A running loop that waits for nothing may wait again. -/
theorem schedule (h : Sound loop) (hzero : loop.pending = 0) (hrunning : loop.running = true) :
    Sound loop.schedule where
  timer := by
    intro timer htimer
    rw [Polling.schedule, timers_eq_nil hzero, List.nil_append, List.mem_singleton] at htimer
    rw [htimer]
    exact ⟨rfl, rfl⟩
  past := h.past
  one := by
    rw [pending_schedule, hzero]
  stopped hstopped := by
    rw [show loop.schedule.running = loop.running from rfl, hrunning] at hstopped
    cases hstopped

/-- A new generation: nothing that waits is of it. -/
theorem next (h : Sound loop) (htimers : loop.timers = []) (running : Bool) :
    Sound { loop with generation := loop.generation + 1, running } ∧
      { loop with generation := loop.generation + 1, running }.pending = 0 := by
  have hnone : loop.polls.count (loop.generation + 1) = 0 := by
    refine List.count_eq_zero_of_not_mem fun hmem => ?_
    have hle := h.past _ hmem
    omega
  have hzero : { loop with generation := loop.generation + 1, running }.pending = 0 := by
    simp [pending, htimers, hnone]
  refine ⟨⟨?_, ?_, ?_, fun _ => hzero⟩, hzero⟩
  · intro timer htimer
    rw [htimers] at htimer
    cases htimer
  · intro generation hmem
    exact Nat.le_succ_of_le (h.past generation hmem)
  · rw [hzero]
    exact Nat.zero_le 1

theorem start (h : Sound loop) : Sound loop.start := by
  unfold Polling.start
  split
  · exact h
  · next hstopped =>
    have htimers := timers_eq_nil (h.stopped (Bool.eq_false_iff.2 hstopped))
    obtain ⟨hnext, hzero⟩ := h.next htimers true
    exact hnext.schedule hzero rfl

/-- The timer that the loop remembers is the only one. -/
theorem filter_timers (h : Sound loop) :
    loop.timers.filter (fun timer => some timer.handle ≠ loop.current) = [] := by
  refine List.filter_eq_nil_iff.2 fun timer htimer => ?_
  simp [(h.timer timer htimer).1]

theorem stop (h : Sound loop) : Sound loop.stop ∧ loop.stop.pending = 0 := by
  have hquiet : Sound { loop with timers := [], current := none } := by
    refine ⟨(fun timer htimer => by cases htimer), h.past, ?_, fun hstopped => ?_⟩
    · exact (Nat.add_le_add_right (Nat.zero_le _) _).trans h.one
    · have hzero := h.stopped hstopped
      rw [pending] at hzero ⊢
      simp only [List.length_nil]
      omega
  have hstop : loop.stop =
      { loop with
        timers := []
        current := none
        generation := loop.generation + 1
        running := false } := by
    unfold Polling.stop
    rw [h.filter_timers]
  rw [hstop]
  exact hquiet.next rfl false

theorem fire (h : Sound loop) {handle : Nat} {after : Polling}
    (hfire : loop.fire handle = some after) :
    Sound after ∧ after.pending = loop.pending ∧ after.running = loop.running := by
  obtain ⟨timer, hfind, rfl⟩ := Option.map_eq_some_iff.1 hfire
  have hmem : timer ∈ loop.timers := List.mem_of_find?_eq_some hfind
  have hhandle : timer.handle = handle := by simpa using List.find?_some hfind
  obtain ⟨hcurrent, hgeneration⟩ := h.timer timer hmem
  have hpos : 0 < loop.timers.length := List.length_pos_of_mem hmem
  have hone := h.one
  rw [pending] at hone
  have hnil : loop.timers.filter (·.handle ≠ handle) = [] := by
    refine List.filter_eq_nil_iff.2 fun other hother => ?_
    have heq := (h.timer other hother).1.symm.trans hcurrent
    simp [Option.some.inj heq, hhandle]
  have hpending : ({ loop with
      timers := loop.timers.filter (·.handle ≠ handle)
      polls := loop.polls ++ [timer.generation] } : Polling).pending = loop.pending := by
    simp only [pending, hnil, hgeneration, List.length_nil, List.count_append,
      List.count_singleton_self]
    omega
  refine ⟨⟨?_, ?_, hpending.trans_le h.one, fun hstopped => hpending.trans (h.stopped hstopped)⟩,
    hpending, rfl⟩
  · intro other hother
    rw [hnil] at hother
    cases hother
  · intro generation hpoll
    rcases List.mem_append.1 hpoll with hpoll | hpoll
    · exact h.past generation hpoll
    · rw [List.mem_singleton.1 hpoll, hgeneration]

/-- An answer is taken by its own generation only. -/
theorem settle (h : Sound loop) {place generation : Nat}
    (hplace : loop.polls[place]? = some generation)
    {continues : Bool} (hcontinues : continues = true → generation = loop.generation) :
    Sound (loop.settle place continues) ∧
      (loop.settle place continues).running = loop.running ∧
      ((generation = loop.generation → continues = true) →
        (loop.settle place continues).pending = loop.pending) := by
  obtain ⟨hlt, hget⟩ := List.getElem?_eq_some_iff.1 hplace
  have hcount : loop.polls.count loop.generation =
      (loop.polls.eraseIdx place).count loop.generation +
        if generation = loop.generation then 1 else 0 := by
    have hperm := (List.getElem_cons_eraseIdx_perm hlt).count_eq loop.generation
    rw [← hperm, List.count_cons, hget]
    simp
  have herased : Sound { loop with polls := loop.polls.eraseIdx place } := by
    have hle :
        ({ loop with polls := loop.polls.eraseIdx place } : Polling).pending ≤ loop.pending := by
      simp only [pending]
      omega
    refine ⟨h.timer, fun other hother => h.past other (List.mem_of_mem_eraseIdx hother),
      hle.trans h.one, fun hstopped => ?_⟩
    exact Nat.eq_zero_of_le_zero (hle.trans (h.stopped hstopped).le)
  cases continues with
  | false =>
    refine ⟨herased, rfl, fun hother => ?_⟩
    have hne : generation ≠ loop.generation := fun heq => by cases hother heq
    rw [if_neg hne, Nat.add_zero] at hcount
    show _ + _ = _ + _
    rw [hcount]
    rfl
  | true =>
    have heq := hcontinues rfl
    rw [if_pos heq] at hcount
    have hpending : ({ loop with polls := loop.polls.eraseIdx place } : Polling).pending + 1 =
        loop.pending := by
      simp only [pending]
      omega
    have hone := h.one
    have hrunning : loop.running = true := by
      by_contra hstopped
      have hzero := h.stopped (Bool.eq_false_iff.2 hstopped)
      omega
    exact ⟨herased.schedule (by omega) hrunning, rfl, fun _ => (pending_schedule _).trans hpending⟩

end Sound

theorem alive_start (h : Sound loop) (halive : Alive loop) : Alive loop.start := by
  unfold start
  split
  · exact halive
  · next hstopped =>
    intro _
    have htimers := timers_eq_nil (h.stopped (Bool.eq_false_iff.2 hstopped))
    obtain ⟨-, hzero⟩ := h.next htimers true
    rw [pending_schedule, hzero]

theorem alive_stop (loop : Polling) : Alive loop.stop := fun h => by cases h

end Polling

end RcOnline.Lib
