import RcOnline.Lib.Steps

/-!
# Interleaved programs on a shared state

A program is a sequence of atomic actions on a state that it shares with others; between two of its
actions any other may run. `Keeps I R p` says that every action of `p`, started in a state of the
invariant `I`, keeps `I` and moves the state as `R` allows. It is proved program by program, with
`Keeps.bind` following the code, and `Pool.Safe.run` carries it to every interleaving of any
number of programs, some of which may stop half way. `Relies` also follows what a program knows of
the state, as long as the others keep to `R` (`Pool.Mutual.run`). A program `Follows` a machine
whose moves are its actions.
-/

namespace RcOnline.Lib

/-- A program on a shared state: it is done, or does an action and goes on with what it read. -/
inductive Prog (σ α : Type) where
  | done (a : α)
  | atomic (act : σ → σ) (next : σ → Prog σ α)

namespace Prog

variable {σ α β : Type}

protected def bind (p : Prog σ α) (f : α → Prog σ β) : Prog σ β :=
  match p with
  | .done a => f a
  | .atomic act next => .atomic act fun s => (next s).bind f

instance : Monad (Prog σ) where
  pure := .done
  bind := Prog.bind

/-- One statement: it reads and writes at once. -/
def stmt (f : σ → α × σ) : Prog σ α := .atomic (fun s => (f s).2) fun s => .done (f s).1

/-- A statement that only reads. -/
def read (f : σ → α) : Prog σ α := stmt fun s => (f s, s)

/-- Every action keeps `I` and moves the state as `R` allows. -/
def Keeps (I : σ → Prop) (R : σ → σ → Prop) : Prog σ α → Prop
  | .done _ => True
  | .atomic act next => ∀ s, I s → I (act s) ∧ R s (act s) ∧ Keeps I R (next s)

variable {I : σ → Prop} {R : σ → σ → Prop}

theorem Keeps.pure (a : α) : Keeps I R (Pure.pure a : Prog σ α) := trivial

theorem Keeps.stmt {f : σ → α × σ} (h : ∀ s, I s → I (f s).2 ∧ R s (f s).2) :
    Keeps I R (Prog.stmt f) := fun s hs => ⟨(h s hs).1, (h s hs).2, trivial⟩

theorem Keeps.read (hrefl : ∀ s, R s s) (f : σ → α) : Keeps I R (Prog.read f) :=
  Keeps.stmt fun s hs => ⟨hs, hrefl s⟩

/-- Sequencing: the rule follows the code. -/
theorem Keeps.bind {p : Prog σ α} {f : α → Prog σ β} (hp : Keeps I R p)
    (hf : ∀ a, Keeps I R (f a)) : Keeps I R (p >>= f) := by
  induction p with
  | done a => exact hf a
  | atomic act next ih =>
    intro s hs
    obtain ⟨hact, hmove, hnext⟩ := hp s hs
    exact ⟨hact, hmove, ih s hnext⟩

/-- What a program keeps, another invariant and other moves that follow from it. -/
theorem Keeps.imp {J : σ → Prop} {S : σ → σ → Prop} {p : Prog σ α} (h : Keeps I R p)
    (hI : ∀ s, J s → I s) (hJ : ∀ s t, J s → I t → R s t → J t ∧ S s t) : Keeps J S p := by
  induction p with
  | done a => trivial
  | atomic act next ih =>
    intro s hs
    obtain ⟨hact, hmove, hnext⟩ := h s (hI s hs)
    obtain ⟨hact', hmove'⟩ := hJ s _ hs hact hmove
    exact ⟨hact', hmove', ih s hnext⟩

/-- Two invariants that a program keeps. -/
theorem Keeps.and {J : σ → Prop} {S : σ → σ → Prop} {p : Prog σ α} (h : Keeps I R p)
    (h' : Keeps J S p) : Keeps (fun s => I s ∧ J s) (fun s t => R s t ∧ S s t) p := by
  induction p with
  | done a => trivial
  | atomic act next ih =>
    rintro s ⟨hs, hs'⟩
    obtain ⟨hact, hmove, hnext⟩ := h s hs
    obtain ⟨hact', hmove', hnext'⟩ := h' s hs'
    exact ⟨⟨hact, hact'⟩, ⟨hmove, hmove'⟩, ih s hnext hnext'⟩

/-- Whatever happens between its actions, as long as `I` holds, the program returns what `post`
allows. -/
def Yields (I : σ → Prop) (post : α → Prop) : Prog σ α → Prop
  | .done a => post a
  | .atomic _ next => ∀ s, I s → Yields I post (next s)

variable {mid : α → Prop} {post : β → Prop}

theorem Yields.pure {a : α} (h : mid a) : Yields I mid (Pure.pure a : Prog σ α) := h

theorem Yields.stmt {f : σ → α × σ} (h : ∀ s, I s → mid (f s).1) : Yields I mid (Prog.stmt f) := h

theorem Yields.bind {p : Prog σ α} {f : α → Prog σ β} (hp : Yields I mid p)
    (hf : ∀ a, mid a → Yields I post (f a)) : Yields I post (p >>= f) := by
  induction p with
  | done a => exact hf a hp
  | atomic act next ih => exact fun s hs => ih s (hp s hs)

/-- As `Keeps.bind`, when the rest of the program needs what the first part returns. -/
theorem Keeps.bind_of {p : Prog σ α} {f : α → Prog σ β} (hp : Keeps I R p)
    (hyields : Yields I mid p)
    (hf : ∀ a, mid a → Keeps I R (f a)) : Keeps I R (p >>= f) := by
  induction p with
  | done a => exact hf a hyields
  | atomic act next ih =>
    intro s hs
    obtain ⟨hact, hmove, hnext⟩ := hp s hs
    exact ⟨hact, hmove, ih s hnext (hyields s hs)⟩

/-- In any state of `I` the actions of the program are the moves of a machine, which ends as the
program does. -/
def Follows {ω : Type} (I : σ → Prop) (moves : σ → ω → σ × ω) (ends : ω → α → Prop) :
    Prog σ α → ω → Prop
  | .done a, phase => ends phase a
  | .atomic act next, phase =>
    ∀ s, I s → act s = (moves s phase).1 ∧ Follows I moves ends (next s) (moves s phase).2

section follows

variable {ω : Type} {moves : σ → ω → σ × ω} {ends : ω → α → Prop} {endsWith : ω → β → Prop}
  {phase : ω}

theorem Follows.pure {a : α} (h : ends phase a) :
    Follows I moves ends (Pure.pure a : Prog σ α) phase := h

theorem Follows.stmt {f : σ → α × σ}
    (h : ∀ s, I s → (f s).2 = (moves s phase).1 ∧ ends (moves s phase).2 (f s).1) :
    Follows I moves ends (Prog.stmt f) phase := h

theorem Follows.stmt_bind {f : σ → α × σ} {k : α → Prog σ β}
    (h : ∀ s, I s → (f s).2 = (moves s phase).1 ∧
      Follows I moves endsWith (k (f s).1) (moves s phase).2) :
    Follows I moves endsWith (Prog.stmt f >>= k) phase := h

end follows

/-- From a state on, as long as other programs move it as `R` allows and `I` holds, every action
keeps `I` and moves the state as `R` allows, and the program ends as `post` says. -/
def Relies (I : σ → Prop) (R : σ → σ → Prop) (post : α → σ → Prop) : Prog σ α → σ → Prop
  | .done a, s => post a s
  | .atomic act next, s =>
    ∀ t, R s t → I t → I (act t) ∧ R t (act t) ∧ Relies I R post (next t) (act t)

variable {midAt : α → σ → Prop} {postAt : β → σ → Prop} {s t : σ}

theorem Relies.stmt {f : σ → α × σ}
    (h : ∀ t, R s t → I t → I (f t).2 ∧ R t (f t).2 ∧ midAt (f t).1 (f t).2) :
    Relies I R midAt (Prog.stmt f) s := h

theorem Relies.read (hrefl : ∀ s, R s s) {f : σ → α} (h : ∀ t, R s t → I t → midAt (f t) t) :
    Relies I R midAt (Prog.read f) s := fun t hmove ht => ⟨ht, hrefl t, h t hmove ht⟩

theorem Relies.bind {p : Prog σ α} {f : α → Prog σ β} (hp : Relies I R midAt p s)
    (hf : ∀ a t, midAt a t → Relies I R postAt (f a) t) : Relies I R postAt (p >>= f) s := by
  induction p generalizing s with
  | done a => exact hf a s hp
  | atomic act next ih =>
    intro t hmove ht
    obtain ⟨hact, hmove', hnext⟩ := hp t hmove ht
    exact ⟨hact, hmove', ih t hnext⟩

/-- What has been relied on still is, when other programs have moved the state. -/
theorem Relies.move {p : Prog σ Unit} (htrans : ∀ {s t u}, R s t → R t u → R s u)
    (h : Relies I R (fun _ _ => True) p s) (hmove : R s t) : Relies I R (fun _ _ => True) p t := by
  cases p with
  | done => trivial
  | atomic act next => exact fun u hmove' hu => h u (htrans hmove hmove') hu

theorem Keeps.relies {p : Prog σ α} (h : Keeps I R p) (s : σ) :
    Relies I R (fun _ _ => True) p s := by
  induction p generalizing s with
  | done => trivial
  | atomic act next ih =>
    intro t _ ht
    obtain ⟨hact, hmove, hnext⟩ := h t ht
    exact ⟨hact, hmove, ih t hnext _⟩

/-! ### Programs on a part of the state -/

/-- A program on a part of the state. -/
def zoom {τ : Type} (get : σ → τ) (put : τ → σ → σ) : Prog τ α → Prog σ α
  | .done a => .done a
  | .atomic act next =>
    .atomic (fun s => put (act (get s)) s) fun s => zoom get put (next (get s))

theorem zoom_bind {τ : Type} {get : σ → τ} {put : τ → σ → σ} (p : Prog τ α) (f : α → Prog τ β) :
    (p >>= f).zoom get put = p.zoom get put >>= fun a => (f a).zoom get put := by
  induction p with
  | done a => rfl
  | atomic act next ih => exact congrArg (Prog.atomic _) (funext fun s => ih (get s))

theorem Keeps.zoom {τ : Type} {get : σ → τ} {put : τ → σ → σ} {J : τ → Prop} {S : τ → τ → Prop}
    {p : Prog τ α} (h : Keeps J S p) (hJ : ∀ s, I s → J (get s))
    (hI : ∀ s t, I s → S (get s) t → I (put t s) ∧ R s (put t s)) :
    Keeps I R (p.zoom get put) := by
  induction p with
  | done a => trivial
  | atomic act next ih =>
    intro s hs
    obtain ⟨-, hmove, hnext⟩ := h (get s) (hJ s hs)
    obtain ⟨hact, hmove'⟩ := hI s _ hs hmove
    exact ⟨hact, hmove', ih (get s) hnext⟩

/-! ### Programs that run alone -/

/-- What a program returns and leaves when nothing runs in between. -/
def run (p : Prog σ α) (s : σ) : α × σ :=
  match p with
  | .done a => (a, s)
  | .atomic act next => (next s).run (act s)

theorem run_stmt (f : σ → α × σ) (s : σ) : (stmt f).run s = f s := rfl

theorem run_bind (p : Prog σ α) (f : α → Prog σ β) (s : σ) :
    (p >>= f).run s = (f (p.run s).1).run (p.run s).2 := by
  induction p generalizing s with
  | done a => rfl
  | atomic act next ih => exact ih s (act s)

theorem Keeps.run {p : Prog σ α} {s : σ} (h : Keeps I R p) (hs : I s) : I (p.run s).2 := by
  induction p generalizing s with
  | done a => exact hs
  | atomic act next ih => exact ih s (h s hs).2.2 (h s hs).1

/-- A program for each item of a list. -/
theorem Keeps.forM {items : List β} {f : β → Prog σ PUnit} (hf : ∀ item, Keeps I R (f item)) :
    Keeps I R (items.forM f) := by
  induction items with
  | nil => exact .pure _
  | cons item items ih => exact (hf item).bind fun _ => ih

/-! ### Programs that are under way -/

/-- What is left of a program, whatever its actions have found. -/
inductive Residual (p : Prog σ α) : Prog σ α → Prop where
  | refl : Residual p p
  | next {act : σ → σ} {next : σ → Prog σ α} (s : σ) :
      Residual p (.atomic act next) → Residual p (next s)

theorem Residual.of_stmt {f : σ → α × σ} {q : Prog σ α} (h : (stmt f).Residual q) :
    q = stmt f ∨ ∃ s, q = .done (f s).1 := by
  induction h with
  | refl => exact .inl rfl
  | next s _ ih =>
    rcases ih with heq | ⟨_, heq⟩
    · obtain ⟨-, rfl⟩ := Prog.atomic.inj heq
      exact .inr ⟨s, rfl⟩
    · cases heq

/-- The one action of a statement whose result is passed on. -/
theorem Residual.of_map_stmt {f : σ → α × σ} {g : α → β} {act : σ → σ} {next : σ → Prog σ β}
    (h : (g <$> stmt f).Residual (.atomic act next)) (s : σ) :
    act s = (f s).2 ∧ next s = .done (g (f s).1) := by
  have hmap : g <$> stmt f = stmt fun s => (g (f s).1, (f s).2) := rfl
  rw [hmap] at h
  rcases h.of_stmt with heq | ⟨_, heq⟩
  · obtain ⟨rfl, rfl⟩ := Prog.atomic.inj heq
    exact ⟨rfl, rfl⟩
  · cases heq

/-- What is left of a program whose result is passed on. -/
theorem Residual.of_map {g : α → β} {p : Prog σ α} {q : Prog σ β} (h : (g <$> p).Residual q) :
    ∃ p' : Prog σ α, q = g <$> p' := by
  induction h with
  | refl => exact ⟨p, rfl⟩
  | next s _ ih =>
    obtain ⟨p', heq⟩ := ih
    cases p' with
    | done a => cases heq
    | atomic act next =>
      obtain ⟨-, rfl⟩ := Prog.atomic.inj heq
      exact ⟨next s, rfl⟩

/-- Such a program comes to a result that has been passed on. -/
theorem Residual.of_map_done {g : α → β} {p : Prog σ α} {b : β}
    (h : (g <$> p).Residual (.done b)) : ∃ a, b = g a := by
  obtain ⟨p', heq⟩ := h.of_map
  cases p' with
  | done a =>
    obtain rfl := Prog.done.inj heq
    exact ⟨a, rfl⟩
  | atomic act next => cases heq

/-- What is left of a program keeps what the program keeps. -/
theorem Keeps.residual {p q : Prog σ α} (hI : ∀ s, I s) (h : Keeps I R p) (hq : p.Residual q) :
    Keeps I R q := by
  induction hq with
  | refl => exact h
  | next s _ ih => exact (ih s (hI s)).2.2

end Prog

/-- A shared state and the programs that are running on it. -/
structure Pool (σ : Type) where
  shared : σ
  running : List (Prog σ Unit)

/-- A call starts, a program does its next action, or one is lost. -/
inductive PoolEvent (κ : Type) where
  | start (call : κ)
  | advance (i : Nat)
  | lose (i : Nat)

namespace Pool

variable {σ κ : Type}

/-- The pool after an event; `calls` is the code of each call. -/
def step (calls : κ → Prog σ Unit) (pool : Pool σ) : PoolEvent κ → Option (Pool σ)
  | .start call => some { pool with running := pool.running ++ [calls call] }
  | .advance i =>
    match pool.running[i]? with
    | none => none
    | some (.done _) => some { pool with running := pool.running.eraseIdx i }
    | some (.atomic act next) =>
      some { shared := act pool.shared, running := pool.running.set i (next pool.shared) }
  | .lose i => some { pool with running := pool.running.eraseIdx i }

variable {calls : κ → Prog σ Unit} {I : σ → Prop} {R : σ → σ → Prop}

/-- What a pool keeps: its state, and the rest of each program. -/
structure Safe (I : σ → Prop) (R : σ → σ → Prop) (pool : Pool σ) : Prop where
  shared : I pool.shared
  running : ∀ p ∈ pool.running, Prog.Keeps I R p

/-- A step keeps a safe pool safe, and moves the state as `R` allows. -/
theorem Safe.step_of {pool pool' : Pool σ} {e : PoolEvent κ}
    (hcall : ∀ c, e = .start c → Prog.Keeps I R (calls c)) (hrefl : ∀ s, R s s) (h : Safe I R pool)
    (hstep : pool.step calls e = some pool') :
    Safe I R pool' ∧ R pool.shared pool'.shared := by
  cases e with
  | start call =>
    obtain rfl := Option.some.inj hstep
    refine ⟨⟨h.shared, ?_⟩, hrefl _⟩
    intro p hp
    rcases List.mem_append.1 hp with hp | hp
    · exact h.running p hp
    · exact List.mem_singleton.1 hp ▸ hcall call rfl
  | advance i =>
    cases hget : pool.running[i]? with
    | none =>
      simp only [Pool.step, hget] at hstep
      cases hstep
    | some p =>
      have hp := h.running p (List.mem_of_getElem? hget)
      cases p with
      | done a =>
        simp only [Pool.step, hget, Option.some.injEq] at hstep
        subst hstep
        exact ⟨⟨h.shared, fun p hp => h.running p (List.mem_of_mem_eraseIdx hp)⟩, hrefl _⟩
      | atomic act next =>
        simp only [Pool.step, hget, Option.some.injEq] at hstep
        subst hstep
        obtain ⟨hact, hmove, hnext⟩ := hp pool.shared h.shared
        refine ⟨⟨hact, ?_⟩, hmove⟩
        intro p hp
        rcases List.mem_or_eq_of_mem_set hp with hp | rfl
        · exact h.running p hp
        · exact hnext
  | lose i =>
    obtain rfl := Option.some.inj hstep
    exact ⟨⟨h.shared, fun p hp => h.running p (List.mem_of_mem_eraseIdx hp)⟩, hrefl _⟩

theorem Safe.step {pool pool' : Pool σ} {e : PoolEvent κ} (hcalls : ∀ c, Prog.Keeps I R (calls c))
    (hrefl : ∀ s, R s s) (h : Safe I R pool) (hstep : pool.step calls e = some pool') :
    Safe I R pool' ∧ R pool.shared pool'.shared :=
  Safe.step_of (fun c _ => hcalls c) hrefl h hstep

/-- What every step allows, and a run composes. -/
theorem Safe.path {start pool : Pool σ} {es : List (PoolEvent κ)}
    (hcalls : ∀ c, .start c ∈ es → Prog.Keeps I R (calls c)) (hrefl : ∀ s, R s s)
    (htrans : ∀ {s t u}, R s t → R t u → R s u) (hstart : Safe I R start)
    (h : Run (StepOf (Pool.step calls)) start es pool) :
    Safe I R pool ∧ R start.shared pool.shared := by
  refine h.invariant_of_mem (I := fun pool => Safe I R pool ∧ R start.shared pool.shared)
    ⟨hstart, hrefl _⟩ fun hmem hs hstep => ?_
  obtain ⟨hsafe, hmove⟩ := Safe.step_of (fun c heq => hcalls c (heq ▸ hmem)) hrefl hs.1 hstep
  exact ⟨hsafe, htrans hs.2 hmove⟩

/-- Every interleaving keeps the invariant. -/
theorem Safe.run {start pool : Pool σ} {es : List (PoolEvent κ)}
    (hcalls : ∀ c, Prog.Keeps I R (calls c)) (hrefl : ∀ s, R s s) (hstart : Safe I R start)
    (h : Run (StepOf (Pool.step calls)) start es pool) : Safe I R pool :=
  h.invariant hstart fun hs hstep => (Safe.step hcalls hrefl hs hstep).1

/-- A pool whose programs rely on what the others keep. -/
structure Mutual (I : σ → Prop) (R : σ → σ → Prop) (pool : Pool σ) : Prop where
  shared : I pool.shared
  running : ∀ p ∈ pool.running, Prog.Relies I R (fun _ _ => True) p pool.shared

theorem Mutual.step {pool pool' : Pool σ} {e : PoolEvent κ}
    (hcall : ∀ c, e = .start c → Prog.Relies I R (fun _ _ => True) (calls c) pool.shared)
    (hrefl : ∀ s, R s s) (htrans : ∀ {s t u}, R s t → R t u → R s u) (h : Mutual I R pool)
    (hstep : pool.step calls e = some pool') : Mutual I R pool' := by
  cases e with
  | start call =>
    obtain rfl := Option.some.inj hstep
    refine ⟨h.shared, fun p hp => ?_⟩
    rcases List.mem_append.1 hp with hp | hp
    · exact h.running p hp
    · exact List.mem_singleton.1 hp ▸ hcall call rfl
  | advance i =>
    cases hget : pool.running[i]? with
    | none =>
      simp only [Pool.step, hget] at hstep
      cases hstep
    | some p =>
      have hp := h.running p (List.mem_of_getElem? hget)
      cases p with
      | done a =>
        simp only [Pool.step, hget, Option.some.injEq] at hstep
        subst hstep
        exact ⟨h.shared, fun p hp => h.running p (List.mem_of_mem_eraseIdx hp)⟩
      | atomic act next =>
        simp only [Pool.step, hget, Option.some.injEq] at hstep
        subst hstep
        obtain ⟨hact, hmove, hnext⟩ := hp pool.shared (hrefl _) h.shared
        refine ⟨hact, fun p hp => ?_⟩
        rcases List.mem_or_eq_of_mem_set hp with hp | rfl
        · exact (h.running p hp).move htrans hmove
        · exact hnext
  | lose i =>
    obtain rfl := Option.some.inj hstep
    exact ⟨h.shared, fun p hp => h.running p (List.mem_of_mem_eraseIdx hp)⟩

/-- Every interleaving of programs that rely on each other. -/
theorem Mutual.run {start pool : Pool σ} {es : List (PoolEvent κ)}
    (hcalls : ∀ c, .start c ∈ es → ∀ s, Prog.Relies I R (fun _ _ => True) (calls c) s)
    (hrefl : ∀ s, R s s) (htrans : ∀ {s t u}, R s t → R t u → R s u) (hstart : Mutual I R start)
    (h : Run (StepOf (Pool.step calls)) start es pool) : Mutual I R pool :=
  h.invariant_of_mem hstart fun hmem hs hstep =>
    hs.step (fun c heq => hcalls c (heq ▸ hmem) _) hrefl htrans hstep

/-- What is under way is what is left of a call that was started. -/
theorem residual_of_run {s : σ} {pool : Pool σ} {es : List (PoolEvent κ)}
    (h : Run (StepOf (Pool.step calls)) ⟨s, []⟩ es pool) :
    ∀ p ∈ pool.running, ∃ c, .start c ∈ es ∧ (calls c).Residual p := by
  induction h with
  | nil => nofun
  | @snoc es pool pool' e _ hstep ih =>
    have hold : ∀ p ∈ pool.running, ∃ c, .start c ∈ es ++ [e] ∧ (calls c).Residual p :=
      fun p hp =>
        have ⟨c, hmem, hresidual⟩ := ih p hp
        ⟨c, List.mem_append_left _ hmem, hresidual⟩
    cases e with
    | start call =>
      obtain rfl := Option.some.inj hstep
      intro p hp
      rcases List.mem_append.1 hp with hp | hp
      · exact hold p hp
      · obtain rfl := List.mem_singleton.1 hp
        exact ⟨call, List.mem_append_right _ (List.mem_singleton_self _), .refl⟩
    | advance i =>
      cases hget : pool.running[i]? with
      | none =>
        simp only [StepOf, Pool.step, hget] at hstep
        cases hstep
      | some p =>
        cases p with
        | done a =>
          simp only [StepOf, Pool.step, hget, Option.some.injEq] at hstep
          subst hstep
          exact fun p hp => hold p (List.mem_of_mem_eraseIdx hp)
        | atomic act next =>
          simp only [StepOf, Pool.step, hget, Option.some.injEq] at hstep
          subst hstep
          intro p hp
          rcases List.mem_or_eq_of_mem_set hp with hp | rfl
          · exact hold p hp
          · obtain ⟨c, hmem, hresidual⟩ := hold _ (List.mem_of_getElem? hget)
            exact ⟨c, hmem, hresidual.next pool.shared⟩
    | lose i =>
      obtain rfl := Option.some.inj hstep
      exact fun p hp => hold p (List.mem_of_mem_eraseIdx hp)

end Pool

end RcOnline.Lib
