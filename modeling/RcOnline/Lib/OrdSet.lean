import Mathlib

/-!
# Insertion-ordered sets

The host language's `Set`: adding a member keeps its place, a new one goes last, and iteration
follows that order.
-/

namespace RcOnline.Lib

/-- A set with its members in insertion order. -/
@[ext]
structure OrdSet (κ : Type*) where
  elems : List κ
  nodup : elems.Nodup

namespace OrdSet

variable {κ : Type*}

instance [DecidableEq κ] : DecidableEq (OrdSet κ) := fun s t =>
  decidable_of_iff (s.elems = t.elems) OrdSet.ext_iff.symm

instance : Membership κ (OrdSet κ) := ⟨fun s k => k ∈ s.elems⟩

/-- `new Set()`. -/
def empty : OrdSet κ := ⟨[], List.nodup_nil⟩

instance : EmptyCollection (OrdSet κ) := ⟨empty⟩

/-- `set.size`. -/
def size (s : OrdSet κ) : Nat := s.elems.length

/-- A loop over the set that deletes the members failing a test. -/
def filter (s : OrdSet κ) (test : κ → Bool) : OrdSet κ := ⟨s.elems.filter test, s.nodup.filter _⟩

@[simp] theorem mem_elems {s : OrdSet κ} {k : κ} : k ∈ s.elems ↔ k ∈ s := Iff.rfl

@[simp] theorem notMem_empty (k : κ) : k ∉ (∅ : OrdSet κ) := List.not_mem_nil

@[simp] theorem mem_filter {s : OrdSet κ} {test : κ → Bool} {k : κ} :
    k ∈ s.filter test ↔ k ∈ s ∧ test k = true := List.mem_filter

theorem size_filter_le (s : OrdSet κ) (test : κ → Bool) : (s.filter test).size ≤ s.size :=
  List.length_filter_le _ _

variable [DecidableEq κ]

instance (s : OrdSet κ) (k : κ) : Decidable (k ∈ s) := inferInstanceAs (Decidable (k ∈ s.elems))

/-- `set.add(k)`. -/
def add (s : OrdSet κ) (k : κ) : OrdSet κ :=
  if h : k ∈ s.elems then s
  else ⟨s.elems ++ [k], List.nodup_append.2 ⟨s.nodup, List.nodup_singleton k, by
    intro a ha b hb hab
    rw [List.mem_singleton.1 hb] at hab
    exact h (hab ▸ ha)⟩⟩

/-- `set.delete(k)`. -/
def delete (s : OrdSet κ) (k : κ) : OrdSet κ := ⟨s.elems.erase k, s.nodup.erase k⟩

@[simp] theorem mem_add {s : OrdSet κ} {k l : κ} : l ∈ s.add k ↔ l = k ∨ l ∈ s := by
  unfold add
  split
  · next h =>
    constructor
    · exact .inr
    · rintro (rfl | hmem)
      · exact h
      · exact hmem
  · change l ∈ s.elems ++ [k] ↔ _
    rw [List.mem_append, List.mem_singleton, or_comm]
    rfl

@[simp] theorem mem_delete {s : OrdSet κ} {k l : κ} : l ∈ s.delete k ↔ l ≠ k ∧ l ∈ s :=
  s.nodup.mem_erase_iff

/-- Deleting a member leaves one less. -/
theorem size_delete {s : OrdSet κ} {k : κ} (h : k ∈ s) : (s.delete k).size + 1 = s.size := by
  have hpos : 0 < s.elems.length := List.length_pos_of_mem h
  have hlength := List.length_erase_of_mem h
  unfold size delete
  dsimp only
  omega

end OrdSet

end RcOnline.Lib
