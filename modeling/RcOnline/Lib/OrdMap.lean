import Mathlib

/-!
# Insertion-ordered maps

The host language's `Map`: writing to a present key keeps its place, a new key goes last, and
iteration follows that order. The keys are distinct by construction, so a map is read either by
key (`get?`) or through its entries (`mem_entries_iff`).
-/

namespace RcOnline.Lib

/-- A map with its entries in insertion order. -/
@[ext]
structure OrdMap (κ : Type*) (α : Type*) where
  entries : List (κ × α)
  nodup : (entries.map Prod.fst).Nodup

namespace OrdMap

variable {κ α : Type*}

instance [DecidableEq κ] [DecidableEq α] : DecidableEq (OrdMap κ α) := fun m n =>
  decidable_of_iff (m.entries = n.entries) OrdMap.ext_iff.symm

/-- `new Map()`. -/
def empty : OrdMap κ α := ⟨[], List.nodup_nil⟩

instance : EmptyCollection (OrdMap κ α) := ⟨empty⟩

variable [DecidableEq κ]

/-- `map.get(k)`. -/
def get? (m : OrdMap κ α) (k : κ) : Option α := (m.entries.find? (·.1 = k)).map Prod.snd

/-- `map.has(k)`. -/
def has (m : OrdMap κ α) (k : κ) : Bool := (m.get? k).isSome

/-- Replace the value of `k` where it stands, or put `k` last. -/
def setEntries (k : κ) (v : α) : List (κ × α) → List (κ × α)
  | [] => [(k, v)]
  | (k', v') :: rest => if k' = k then (k, v) :: rest else (k', v') :: setEntries k v rest

theorem mem_keys_setEntries {k k' : κ} {v : α} {es : List (κ × α)} :
    k' ∈ (setEntries k v es).map Prod.fst ↔ k' = k ∨ k' ∈ es.map Prod.fst := by
  induction es with
  | nil => simp [setEntries]
  | cons e es ih =>
    obtain ⟨l, w⟩ := e
    rw [setEntries]
    split
    · next h => subst h; simp
    · simp only [List.map_cons, List.mem_cons, ih]
      exact or_left_comm

theorem nodup_setEntries {k : κ} {v : α} {es : List (κ × α)} (h : (es.map Prod.fst).Nodup) :
    ((setEntries k v es).map Prod.fst).Nodup := by
  induction es with
  | nil => simp [setEntries]
  | cons e es ih =>
    obtain ⟨l, w⟩ := e
    rw [List.map_cons, List.nodup_cons] at h
    rw [setEntries]
    split
    · next heq => subst heq; exact List.nodup_cons.2 h
    · next hne =>
      rw [List.map_cons, List.nodup_cons, mem_keys_setEntries]
      exact ⟨fun hm => hm.elim hne h.1, ih h.2⟩

/-- `map.set(k, v)`. -/
def set (m : OrdMap κ α) (k : κ) (v : α) : OrdMap κ α :=
  ⟨setEntries k v m.entries, nodup_setEntries m.nodup⟩

/-- `map.delete(k)`. -/
def delete (m : OrdMap κ α) (k : κ) : OrdMap κ α :=
  ⟨m.entries.filter (·.1 ≠ k), (List.filter_sublist.map _).nodup m.nodup⟩

@[simp] theorem get?_empty (k : κ) : (∅ : OrdMap κ α).get? k = none := rfl

theorem find?_setEntries (k k' : κ) (v : α) (es : List (κ × α)) :
    (setEntries k v es).find? (·.1 = k') =
      if k = k' then some (k, v) else es.find? (·.1 = k') := by
  induction es with
  | nil => by_cases h : k = k' <;> simp [setEntries, h]
  | cons e es ih =>
    obtain ⟨l, w⟩ := e
    rw [setEntries]
    by_cases hl : l = k
    · subst hl
      by_cases h : l = k' <;> simp [h]
    · rw [if_neg hl, List.find?_cons, List.find?_cons, ih]
      by_cases hk : l = k'
      · subst hk
        simp [Ne.symm hl]
      · simp [hk]

theorem get?_set (m : OrdMap κ α) (k k' : κ) (v : α) :
    (m.set k v).get? k' = if k = k' then some v else m.get? k' := by
  rw [get?, set, find?_setEntries]
  split <;> rfl

@[simp] theorem get?_set_self (m : OrdMap κ α) (k : κ) (v : α) : (m.set k v).get? k = some v := by
  rw [get?_set, if_pos rfl]

theorem get?_set_of_ne (m : OrdMap κ α) {k k' : κ} (v : α) (h : k ≠ k') :
    (m.set k v).get? k' = m.get? k' := by
  rw [get?_set, if_neg h]

theorem get?_delete (m : OrdMap κ α) (k k' : κ) :
    (m.delete k).get? k' = if k = k' then none else m.get? k' := by
  rw [get?, delete, List.find?_filter]
  split
  · next h =>
    subst h
    rw [Option.map_eq_none_iff, List.find?_eq_none]
    simp
  · next h =>
    rw [get?]
    congr 2
    funext e
    by_cases he : e.1 = k'
    · simp [he, Ne.symm h]
    · simp [he]

@[simp] theorem get?_delete_self (m : OrdMap κ α) (k : κ) : (m.delete k).get? k = none := by
  rw [get?_delete, if_pos rfl]

theorem get?_delete_of_ne (m : OrdMap κ α) {k k' : κ} (h : k ≠ k') :
    (m.delete k).get? k' = m.get? k' := by
  rw [get?_delete, if_neg h]

/-- A value still found after a deletion was there before. -/
theorem get?_of_get?_delete {m : OrdMap κ α} {k k' : κ} {v : α}
    (h : (m.delete k).get? k' = some v) : k ≠ k' ∧ m.get? k' = some v := by
  rw [get?_delete] at h
  split at h
  · cases h
  · next hne => exact ⟨hne, h⟩

/-- Iteration visits exactly the pairs that look-up finds. -/
theorem mem_entries_iff {m : OrdMap κ α} {k : κ} {v : α} :
    (k, v) ∈ m.entries ↔ m.get? k = some v := by
  obtain ⟨es, h⟩ := m
  simp only [get?]
  induction es with
  | nil => simp
  | cons e es ih =>
    obtain ⟨l, w⟩ := e
    rw [List.map_cons, List.nodup_cons] at h
    rw [List.find?_cons]
    by_cases hl : l = k
    · subst hl
      have hout : (l, v) ∉ es := fun hm => h.1 (List.mem_map.2 ⟨_, hm, rfl⟩)
      simp [hout, eq_comm]
    · simp only [List.mem_cons, Prod.mk.injEq, hl, decide_false]
      rw [← ih h.2]
      simp [Ne.symm hl]

/-- A pass over the entries in which only one key counts. -/
theorem flatMap_entries {β : Type*} (m : OrdMap κ α) (k : κ) (f : κ × α → List β)
    (hf : ∀ e ∈ m.entries, e.1 ≠ k → f e = []) :
    m.entries.flatMap f = (m.get? k).elim [] fun v => f (k, v) := by
  obtain ⟨es, h⟩ := m
  simp only [get?]
  induction es with
  | nil => rfl
  | cons e es ih =>
    obtain ⟨l, v⟩ := e
    rw [List.map_cons, List.nodup_cons] at h
    rw [List.flatMap_cons, List.find?_cons]
    have hrest : ∀ e ∈ es, e.1 ≠ k → f e = [] := fun e he => hf e (List.mem_cons_of_mem _ he)
    by_cases hl : l = k
    · subst hl
      -- no later entry has the key
      have hnil : es.flatMap f = [] := by
        rw [List.flatMap_eq_nil_iff]
        intro e he
        exact hrest e he fun heq => h.1 (List.mem_map.2 ⟨e, he, heq⟩)
      simp [hnil]
    · rw [hf _ List.mem_cons_self hl, List.nil_append, ih h.2 hrest, decide_eq_false hl]

@[simp] theorem has_iff {m : OrdMap κ α} {k : κ} : m.has k = true ↔ ∃ v, m.get? k = some v := by
  rw [has, Option.isSome_iff_exists]

theorem has_eq_false_iff {m : OrdMap κ α} {k : κ} : m.has k = false ↔ m.get? k = none := by
  rw [has, Option.isSome_eq_false_iff, Option.isNone_iff_eq_none]

end OrdMap

end RcOnline.Lib
