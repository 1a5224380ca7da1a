import Mathlib.Data.List.Infix

/-!
# Histories

A history lists what has happened, the latest first. `Since P base past` says that `past` goes back
to `base` and that everything after `base` meets `P`. A program that judges a stretch of its history
by a mark keeps `Marked`: the mark says where the stretch begins.
-/

namespace RcOnline.Lib

variable {α τ : Type*}

/-- The history goes back to `base`, and every entry since meets `P` with what was before it. -/
inductive Since (P : List α → α → Prop) (base : List α) : List α → Prop where
  | refl : Since P base base
  | cons {past : List α} {entry : α} :
      Since P base past → P past entry → Since P base (entry :: past)

namespace Since

variable {P Q : List α → α → Prop} {base past : List α}

theorem imp (h : Since P base past) (hPQ : ∀ past entry, P past entry → Q past entry) :
    Since Q base past := by
  induction h with
  | refl => exact .refl
  | cons _ hentry ih => exact ih.cons (hPQ _ _ hentry)

theorem trans {middle : List α} (h : Since P base middle) (h' : Since P middle past) :
    Since P base past := by
  induction h' with
  | refl => exact h
  | cons _ hentry ih => exact ih.cons hentry

theorem suffix (h : Since P base past) : base <:+ past := by
  induction h with
  | refl => exact List.suffix_refl base
  | cons _ _ ih => exact ih.trans (List.suffix_cons _ _)

end Since

/-- The mark says where a stretch of the history begins: what the history was then meets `Q`, and
every entry since meets `P`. -/
def Marked (Q : τ → List α → Prop) (P : List α → α → Prop) (mark : Option τ) (past : List α) :
    Prop :=
  ∀ since, mark = some since → ∃ base, Q since base ∧ Since P base past

namespace Marked

variable {Q : τ → List α → Prop} {P : List α → α → Prop} {mark mark' : Option τ} {past : List α}
  {entry : α}

theorem none : Marked Q P none past := fun _ h => by cases h

/-- The next entry leaves a mark where it meets `P`, or sets one where the history then meets
`Q`. -/
theorem cons (h : Marked Q P mark past)
    (hmark : ∀ since, mark' = some since → mark = some since ∧ P past entry ∨
      Q since (entry :: past)) : Marked Q P mark' (entry :: past) := by
  intro since hsince
  rcases hmark since hsince with ⟨hold, hentry⟩ | hnew
  · obtain ⟨base, hbase, hpast⟩ := h since hold
    exact ⟨base, hbase, hpast.cons hentry⟩
  · exact ⟨entry :: past, hnew, .refl⟩

end Marked

end RcOnline.Lib
