import Mathlib

/-!
# Runs

A system takes one step per event. `Run` collects the events that lead from a start to a state, and
`Run.invariant` is the induction every safety result rests on: what holds at the start and is kept
by a step holds of every state reached. `runList` executes a step function, so that a concrete run
can be evaluated. `Each` says what every entry of a log owes to the entries before it.
-/

namespace RcOnline.Lib

variable {σ ι : Type*}

/-- The events, one step each, lead from `start` to a state. -/
inductive Run (step : σ → ι → σ → Prop) (start : σ) : List ι → σ → Prop where
  | nil : Run step start [] start
  | snoc {es : List ι} {s t : σ} {e : ι} :
      Run step start es s → step s e t → Run step start (es ++ [e]) t

namespace Run

variable {step step' : σ → ι → σ → Prop} {start : σ} {es : List ι} {s t : σ}

/-- What holds at the start and is kept by every step holds of every state reached. -/
theorem invariant {I : σ → Prop} (h : Run step start es s) (hstart : I start)
    (hstep : ∀ {s t : σ} {e : ι}, I s → step s e t → I t) : I s := by
  induction h with
  | nil => exact hstart
  | snoc _ hs ih => exact hstep ih hs

/-- The same, when a step has to be one of the run's. -/
theorem invariant_of_mem {I : σ → Prop} (h : Run step start es s) (hstart : I start)
    (hstep : ∀ {s t : σ} {e : ι}, e ∈ es → I s → step s e t → I t) : I s := by
  induction h with
  | nil => exact hstart
  | snoc _ hs ih =>
    refine hstep (by simp) (ih fun he => hstep ?_) hs
    exact List.mem_append_left _ he

theorem mono (h : Run step start es s) (hstep : ∀ {s t : σ} {e : ι}, step s e t → step' s e t) :
    Run step' start es s := by
  induction h with
  | nil => exact .nil
  | snoc _ hs ih => exact ih.snoc (hstep hs)

/-- As `mono`, for the events of the run. -/
theorem mono_of_mem (h : Run step start es s)
    (hstep : ∀ {s t : σ} {e : ι}, e ∈ es → step s e t → step' s e t) : Run step' start es s := by
  induction h with
  | nil => exact .nil
  | snoc _ hs ih =>
    exact (ih fun hmem => hstep (List.mem_append_left _ hmem)).snoc
      (hstep (List.mem_append_right _ (List.mem_singleton_self _)) hs)

theorem append {es' : List ι} (h : Run step start es s) (h' : Run step s es' t) :
    Run step start (es ++ es') t := by
  induction h' with
  | nil => rwa [List.append_nil]
  | snoc _ hs ih =>
    rw [← List.append_assoc]
    exact ih.snoc hs

/-- A run by its first step. -/
theorem cons {e : ι} {u : σ} (hs : step start e s) (h : Run step s es u) :
    Run step start (e :: es) u := by
  have hfirst : Run step start ([] ++ [e]) s := .snoc .nil hs
  exact hfirst.append h

/-- Without an event nothing has happened. -/
theorem eq_start (h : Run step start [] s) : s = start := by
  generalize hnil : ([] : List ι) = es at h
  cases h with
  | nil => rfl
  | snoc => exact absurd hnil.symm (List.append_ne_nil_of_right_ne_nil _ (List.cons_ne_nil _ _))

/-- The last step of a run. -/
theorem last {e : ι} (h : Run step start (es ++ [e]) t) :
    ∃ s, Run step start es s ∧ step s e t := by
  generalize heq : es ++ [e] = es' at h
  cases h with
  | nil => simp at heq
  | snoc hrun hs =>
    obtain ⟨rfl, he⟩ := List.append_inj' heq rfl
    obtain rfl := List.singleton_inj.1 he
    exact ⟨_, hrun, hs⟩

/-- The state between two parts of a run. -/
theorem split {es' : List ι} (h : Run step start (es ++ es') t) :
    ∃ s, Run step start es s ∧ Run step s es' t := by
  induction es' using List.reverseRecOn generalizing t with
  | nil =>
    rw [List.append_nil] at h
    exact ⟨t, h, .nil⟩
  | append_singleton es' e ih =>
    rw [← List.append_assoc] at h
    obtain ⟨u, hrun, hs⟩ := h.last
    obtain ⟨s, hs', hs''⟩ := ih hrun
    exact ⟨s, hs', hs''.snoc hs⟩

end Run

/-- The steps of a step function. -/
def StepOf (step : σ → ι → Option σ) (s : σ) (e : ι) (t : σ) : Prop := step s e = some t

/-- The state that a list of events leads to. -/
def runList (step : σ → ι → Option σ) : σ → List ι → Option σ
  | s, [] => some s
  | s, e :: es => (step s e).bind fun t => runList step t es

theorem run_of_runList {step : σ → ι → Option σ} {start s : σ} {es : List ι}
    (h : runList step start es = some s) : Run (StepOf step) start es s := by
  induction es generalizing start with
  | nil =>
    obtain rfl := Option.some.inj h
    exact .nil
  | cons e es ih =>
    obtain ⟨t, hstep, hrest⟩ := Option.bind_eq_some_iff.1 h
    exact .cons hstep (ih hrest)

/-- The run of a total step function. -/
theorem run_foldl (f : σ → ι → σ) (start : σ) (es : List ι) :
    Run (fun s e t => t = f s e) start es (es.foldl f start) := by
  induction es generalizing start with
  | nil => exact .nil
  | cons e es ih => exact .cons rfl (ih (f start e))

/-! ## Conditions on every step -/

section throughout

variable {step : σ → ι → σ} {P Q : σ → ι → Prop} {J : σ → Prop} {s : σ}

/-- Every step of a total step function meets a condition on the state before it and its event. -/
def Throughout (step : σ → ι → σ) (P : σ → ι → Prop) : σ → List ι → Prop
  | _, [] => True
  | s, e :: es => P s e ∧ Throughout step P (step s e) es

instance decidableThroughout [∀ s e, Decidable (P s e)] (s : σ) :
    (es : List ι) → Decidable (Throughout step P s es)
  | [] => .isTrue trivial
  | e :: es =>
    have : Decidable (Throughout step P (step s e) es) := decidableThroughout (step s e) es
    inferInstanceAs (Decidable (P s e ∧ Throughout step P (step s e) es))

/-- Two conditions agree throughout, where they agree under what the steps that meet them keep. -/
theorem throughout_congr (hiff : ∀ s e, J s → (P s e ↔ Q s e))
    (hstep : ∀ s e, J s → Q s e → J (step s e)) (hs : J s) (es : List ι) :
    Throughout step P s es ↔ Throughout step Q s es := by
  induction es generalizing s with
  | nil => exact Iff.rfl
  | cons e es ih =>
    rw [Throughout, Throughout, hiff s e hs]
    exact and_congr_right fun hQ => ih (hstep s e hs hQ)

/-- A condition throughout is one at every place of the events. -/
theorem throughout_iff {es : List ι} :
    Throughout step P s es ↔
      ∀ (n : Nat) (e : ι), es[n]? = some e → P ((es.take n).foldl step s) e := by
  induction es generalizing s with
  | nil => exact iff_of_true trivial fun n e h => by simp at h
  | cons first es ih =>
    rw [Throughout, ih]
    constructor
    · rintro ⟨hfirst, hrest⟩ n e he
      cases n with
      | zero =>
        obtain rfl := Option.some.inj he
        exact hfirst
      | succ n => exact hrest n e he
    · exact fun h => ⟨h 0 first rfl, fun n e he => h (n + 1) e he⟩

/-- A condition throughout gives another, under what the steps that meet it keep. -/
theorem Throughout.imp {es : List ι} (h : Throughout step Q s es)
    (himp : ∀ s e, J s → Q s e → P s e) (hstep : ∀ s e, J s → Q s e → J (step s e)) (hs : J s) :
    Throughout step P s es := by
  induction es generalizing s with
  | nil => trivial
  | cons e es ih => exact ⟨himp s e hs h.1, ih h.2 (hstep s e hs h.1)⟩

end throughout

/-! ## Logs -/

section logs

variable {α : Type*} {P : List α → α → Prop} {log new : List α}

/-- Every entry of a log agrees with what comes before it. -/
def Each (P : List α → α → Prop) (log : List α) : Prop :=
  ∀ before entry after, log = before ++ entry :: after → P before entry

theorem Each.nil : Each P [] := fun before _ _ h =>
  absurd h.symm (List.append_ne_nil_of_right_ne_nil before (List.cons_ne_nil _ _))

/-- Entries are appended. -/
theorem Each.append (h : Each P log)
    (hnew : ∀ before entry after, new = before ++ entry :: after → P (log ++ before) entry) :
    Each P (log ++ new) := by
  intro before entry after heq
  rcases List.append_eq_append_iff.1 heq with ⟨rest, rfl, hrest⟩ | ⟨rest, rfl, hrest⟩
  · exact hnew rest entry after hrest
  · cases rest with
    | nil =>
      have := hnew [] entry after hrest.symm
      rwa [List.append_nil, List.append_nil] at this
    | cons first rest =>
      obtain ⟨rfl, rfl⟩ := List.cons.inj hrest
      exact h before entry rest rfl

/-- One entry is appended. -/
theorem Each.snoc {entry : α} (h : Each P log) (hentry : P log entry) :
    Each P (log ++ [entry]) := by
  refine h.append fun before new after heq => ?_
  cases before with
  | nil =>
    obtain ⟨rfl, -⟩ := List.cons.inj heq
    rwa [List.append_nil]
  | cons first rest =>
    obtain ⟨-, hrest⟩ := List.cons.inj heq
    exact absurd hrest.symm (List.append_ne_nil_of_right_ne_nil rest (List.cons_ne_nil _ _))

end logs

end RcOnline.Lib
