import RcOnline.Lib.Host

/-!
# Sorting by a collation

What the host promises of `localeCompare`, and what a stable sort puts first: the least entries, and
among equals the one that stood first (`find?_insertionSort`).
-/

namespace RcOnline.Lib

/-- The host compares texts one way round, and in one order. -/
structure Collates (host : Host) : Prop where
  swap : ∀ a b, host.localeCompare a b < 0 ↔ 0 < host.localeCompare b a
  trans : ∀ a b c, host.localeCompare a b ≤ 0 → host.localeCompare b c ≤ 0 →
    host.localeCompare a c ≤ 0

namespace Collates

variable {host : Host}

theorem total (h : Collates host) (a b : String) :
    host.localeCompare a b ≤ 0 ∨ host.localeCompare b a ≤ 0 := by
  by_cases hle : host.localeCompare a b ≤ 0
  · exact .inl hle
  · exact .inr ((h.swap b a).2 (Int.not_le.1 hle)).le

theorem not_lt_iff (h : Collates host) (a b : String) :
    ¬ host.localeCompare a b < 0 ↔ host.localeCompare b a ≤ 0 := by
  rw [h.swap, not_lt]

/-- The order of the code points is a collation. -/
theorem of_lt (h : ∀ a b, host.localeCompare a b = if a < b then -1 else if a = b then 0 else 1) :
    Collates host where
  swap a b := by
    rw [h, h]
    rcases lt_trichotomy a b with hlt | rfl | hlt
    · simp [hlt, not_lt_of_gt hlt, ne_of_gt hlt]
    · simp
    · simp [hlt, not_lt_of_gt hlt, ne_of_gt hlt]
  trans a b c := by
    have hle : ∀ x y, host.localeCompare x y ≤ 0 ↔ x ≤ y := by
      intro x y
      rw [h]
      rcases lt_trichotomy x y with hlt | rfl | hlt
      · simp [hlt, hlt.le]
      · simp
      · simp [not_lt_of_gt hlt, ne_of_gt hlt, hlt]
    rw [hle, hle, hle]
    exact le_trans

end Collates

/-! ## Stable sorts -/

section sorted

variable {α : Type*} {r : α → α → Prop} [Std.Total r]

/-- In a sorted list an entry that another must follow stands before it. -/
theorem mem_before_of_sorted {before after : List α} {a b : α}
    (h : (before ++ b :: after).Pairwise r) (hab : ¬ r b a) (ha : a ∈ before ++ b :: after) :
    a ∈ before := by
  rcases List.mem_append.1 ha with ha | ha
  · exact ha
  · refine absurd ?_ hab
    rcases List.mem_cons.1 ha with rfl | ha
    · exact (Std.Total.total (r := r) a a).elim id id
    · exact (List.pairwise_cons.1 (List.pairwise_append.1 h).2.1).1 a ha

variable [DecidableRel r] [IsTrans α r]

/-- The first of a sorted list that is wanted is below every other one, and stood before those that
it equals. -/
theorem find?_insertionSort {l : List α} (hnodup : l.Nodup) {p : α → Bool} {a : α}
    (h : (l.insertionSort r).find? p = some a) :
    a ∈ l ∧ p a = true ∧
      ∀ b ∈ l, p b = true → b ≠ a → r a b ∧ (r b a → [a, b].Sublist l) := by
  obtain ⟨hpa, before, after, hsplit, hbefore⟩ := List.find?_eq_some_iff_append.1 h
  have hmem : ∀ {b}, b ∈ l.insertionSort r ↔ b ∈ l := List.mem_insertionSort r
  refine ⟨hmem.1 (by simp [hsplit]), hpa, fun b hb hpb hne => ?_⟩
  have hafter : b ∈ after := by
    have hsorted := hmem.2 hb
    rw [hsplit] at hsorted
    rcases List.mem_append.1 hsorted with hmem' | hmem'
    · have hnot := hbefore b hmem'
      rw [hpb] at hnot
      cases hnot
    · exact (List.mem_cons.1 hmem').resolve_left hne
  have hpair : [a, b].Sublist (l.insertionSort r) := by
    rw [hsplit]
    refine List.Sublist.trans ?_ (List.sublist_append_right _ _)
    exact (List.singleton_sublist.2 hafter).cons_cons a
  refine ⟨(List.pairwise_pair.1 ((List.pairwise_insertionSort r l).sublist hpair)), fun hba => ?_⟩
  have ha : a ∈ l := hmem.1 (by simp [hsplit])
  obtain ⟨first, rest, rfl⟩ := List.append_of_mem ha
  rcases List.mem_append.1 hb with hb | hb
  · -- it stood first, and so it still does
    exfalso
    have hback : [b, a].Sublist (first ++ a :: rest) :=
      (List.singleton_sublist.2 hb).append (List.singleton_sublist.2 List.mem_cons_self)
    have hsorted := List.pair_sublist_insertionSort (r := r) hba hback
    have hnodup' : ((first ++ a :: rest).insertionSort r).Nodup :=
      (List.perm_insertionSort r _).nodup_iff.2 hnodup
    rw [hsplit] at hsorted hnodup'
    have hlast : a ∉ after := (List.nodup_cons.1 (List.nodup_append.1 hnodup').2.1).1
    obtain ⟨left, right, heq, hleft, hright⟩ := List.sublist_append_iff.1 hsorted
    cases left with
    | nil =>
      obtain rfl : [b, a] = right := heq
      cases hright with
      | cons _ hright => exact hlast (hright.subset (by simp))
      | cons_cons => exact hne rfl
    | cons first' left =>
      obtain ⟨rfl, -⟩ := List.cons.inj heq
      have hnot := hbefore b (hleft.subset List.mem_cons_self)
      rw [hpb] at hnot
      cases hnot
  · have hb := (List.mem_cons.1 hb).resolve_left hne
    refine List.Sublist.trans ?_ (List.sublist_append_right _ _)
    exact (List.singleton_sublist.2 hb).cons_cons a

end sorted

end RcOnline.Lib
