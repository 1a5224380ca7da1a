import Mathlib

/-!
# Results

A computation that returns a value or an error has returned a value exactly where every part of it
has (`bind_eq_ok`), and a loop over a list is one part after another (`mapM_returns`).
-/

namespace RcOnline.Lib

variable {ε α β : Type}

theorem bind_eq_ok {x : Except ε α} {f : α → Except ε β} {b : β} :
    x >>= f = .ok b ↔ ∃ a, x = .ok a ∧ f a = .ok b := by
  cases x with
  | error e => exact ⟨nofun, fun ⟨_, h, _⟩ => by cases h⟩
  | ok a => exact ⟨fun h => ⟨a, rfl, h⟩, fun ⟨_, h, h'⟩ => by cases h; exact h'⟩

/-- The value of a result that is mapped. -/
theorem map_eq_ok {x : Except ε α} {f : α → β} {b : β} (h : x.map f = .ok b) :
    ∃ a, x = .ok a ∧ f a = b := by
  cases x with
  | error => cases h
  | ok a => exact ⟨a, rfl, Except.ok.inj h⟩

/-- A value, or an error where it is missing. -/
def ofOption (error : ε) : Option α → Except ε α
  | some a => .ok a
  | none => .error error

theorem ofOption_eq_ok {error : ε} {x : Option α} {a : α} :
    ofOption error x = .ok a ↔ x = some a := by
  cases x with
  | some b => exact ⟨fun h => congrArg some (Except.ok.inj h), fun h => by cases h; rfl⟩
  | none => exact ⟨nofun, nofun⟩

/-! ## Loops -/

/-- What a loop has put together, for any notion of returning that goes through the parts. -/
theorem mapM_returns {m : Type → Type} [Monad m] [LawfulMonad m]
    (Returns : ∀ γ : Type, m γ → γ → Prop)
    (hpure : ∀ {γ : Type} {a b : γ}, Returns γ (pure a) b → a = b)
    (hbind : ∀ {γ δ : Type} {x : m γ} {f : γ → m δ} {b : δ},
      Returns δ (x >>= f) b → ∃ a, Returns γ x a ∧ Returns δ (f a) b)
    {f : α → m β} {P : β → Prop} (hf : ∀ a b, Returns β (f a) b → P b) {items : List α}
    {results : List β} (h : Returns (List β) (items.mapM f) results) :
    results.length = items.length ∧ ∀ result ∈ results, P result := by
  induction items generalizing results with
  | nil =>
    rw [List.mapM_nil] at h
    obtain rfl := hpure h
    exact ⟨rfl, by simp⟩
  | cons item items ih =>
    rw [List.mapM_cons] at h
    obtain ⟨result, hresult, h⟩ := hbind h
    obtain ⟨rest, hrest, h⟩ := hbind h
    obtain rfl := hpure h
    obtain ⟨hlength, hall⟩ := ih hrest
    exact ⟨congrArg (· + 1) hlength, List.forall_mem_cons.2 ⟨hf item result hresult, hall⟩⟩

theorem mapM_ok {f : α → Except ε β} {P : β → Prop} (hf : ∀ a b, f a = .ok b → P b)
    {items : List α} {results : List β} (h : items.mapM f = .ok results) :
    results.length = items.length ∧ ∀ result ∈ results, P result :=
  mapM_returns (m := Except ε) (fun _ x a => x = .ok a) Except.ok.inj bind_eq_ok.1 hf h

theorem mapM_some {f : α → Option β} {P : β → Prop} (hf : ∀ a b, f a = some b → P b)
    {items : List α} {results : List β} (h : items.mapM f = some results) :
    results.length = items.length ∧ ∀ result ∈ results, P result :=
  mapM_returns (m := Option) (fun _ x a => x = some a) Option.some.inj Option.bind_eq_some_iff.1 hf
    h

end RcOnline.Lib
