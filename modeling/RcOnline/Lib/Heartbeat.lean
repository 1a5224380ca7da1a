import Mathlib

/-!
# Heartbeats

A watcher pings at its ticks, and keeps of each that it watches the first ping without an answer: a
later ping does not extend it. At a tick that is too late for an answer to that ping it is dropped.
So something that has stopped answering is dropped when one of its pings is out too long at another
(`cut_iff`), and something that answers every ping before the next tick never is
(`kept_of_answered`).
-/

namespace RcOnline.Lib

/-- What happens to something that may be watched. -/
inductive Beat (τ : Type*) where
  /-- A tick, and whether its ping cannot be sent. -/
  | tick (now : τ) (fails : Bool)
  | answer
  /-- It is watched, as if it had just answered. -/
  | watch
  | unwatch
  | other
  deriving DecidableEq

namespace Beat

variable {τ : Type*}

def time? : Beat τ → Option τ
  | .tick now _ => some now
  | _ => none

/-- The times of the ticks. -/
def times (beats : List (Beat τ)) : List τ := beats.filterMap time?

/-- The pings that are out, after one more beat. -/
def out (sent : List τ) : Beat τ → List τ
  | .tick now _ => sent ++ [now]
  | .answer => []
  | .watch => []
  | .unwatch => []
  | .other => sent

/-- It is dropped, or cannot be pinged. -/
def Drops (beat : Beat τ) : Prop := beat = .unwatch ∨ ∃ now, beat = .tick now true

/-- Nothing but ticks, as far as it is watched. -/
def Unbroken (beats : List (Beat τ)) : Prop :=
  .answer ∉ beats ∧ .watch ∉ beats ∧ .unwatch ∉ beats

theorem unbroken_cons {beat : Beat τ} {beats : List (Beat τ)} : Unbroken (beat :: beats) ↔
    (beat ≠ .answer ∧ beat ≠ .watch ∧ beat ≠ .unwatch) ∧ Unbroken beats := by
  simp only [Unbroken, List.mem_cons, not_or, ne_eq, eq_comm]
  tauto

section marks

-- `late since now`: at the tick `now` the ping of the tick `since` is out too long
variable (late : τ → τ → Bool)

/-- Where a ping is out too long, so is an older one. -/
def OldestFirst [LE τ] : Prop :=
  ∀ ⦃since since' now : τ⦄, since ≤ since' → late since' now = true → late since now = true

/-- The mark of what is watched, after one more beat: none when it is not watched, else its first
ping without an answer. -/
def next (mark : Option (Option τ)) : Beat τ → Option (Option τ)
  | .tick now fails =>
    mark.bind fun first =>
      if (first.any fun since => late since now) || fails then none
      else some (first.or (some now))
  | .answer => mark.map fun _ => none
  | .watch => some none
  | .unwatch => none
  | .other => mark

/-- What is watched is dropped at some beat. -/
def Cut (mark : Option (Option τ)) (beats : List (Beat τ)) : Prop :=
  ∃ before, before <+: beats ∧ before.foldl (next late) mark = none

/-- A ping is out too long at a tick. -/
def Overdue (sent : List τ) (beats : List (Beat τ)) : Prop :=
  ∃ before now fails after, beats = before ++ .tick now fails :: after ∧
    ∃ since ∈ before.foldl out sent, late since now = true

/-- Every ping is sent, and answered before the next tick. -/
def Answered (beats : List (Beat τ)) : Prop :=
  (∀ now, .tick now true ∉ beats) ∧
    ∀ before now fails between now' fails' after,
      beats = before ++ .tick now fails :: between ++ .tick now' fails' :: after →
      (before ++ [.tick now fails]).foldl (next late) none ≠ none → .answer ∈ between

variable {late} {sent : List τ} {beat : Beat τ} {beats : List (Beat τ)} {first : Option τ}

/-! ## Silence -/

theorem cut_cons : Cut late (some first) (beat :: beats) ↔
    Cut late (next late (some first) beat) beats := by
  constructor
  · rintro ⟨before, hinit, hnone⟩
    cases before with
    | nil => cases hnone
    | cons head before =>
      obtain ⟨rfl, hrest⟩ := List.cons_prefix_cons.1 hinit
      exact ⟨before, hrest, hnone⟩
  · rintro ⟨before, hinit, hnone⟩
    exact ⟨beat :: before, List.cons_prefix_cons.2 ⟨rfl, hinit⟩, hnone⟩

theorem cut_none : Cut late none beats := ⟨[], List.nil_prefix, rfl⟩

theorem not_cut_nil : ¬ Cut late (some first) [] := by
  rintro ⟨before, hinit, hnone⟩
  obtain rfl := List.prefix_nil.1 hinit
  cases hnone

theorem overdue_cons : Overdue late sent (beat :: beats) ↔
    (∃ now fails, beat = .tick now fails ∧ ∃ since ∈ sent, late since now = true) ∨
      Overdue late (out sent beat) beats := by
  constructor
  · rintro ⟨before, now, fails, after, heq, hlate⟩
    cases before with
    | nil => exact .inl ⟨now, fails, (List.cons.inj heq).1, hlate⟩
    | cons head before =>
      obtain ⟨rfl, rfl⟩ := List.cons.inj heq
      exact .inr ⟨before, now, fails, after, rfl, hlate⟩
  · rintro (⟨now, fails, rfl, hlate⟩ | ⟨before, now, fails, after, rfl, hlate⟩)
    · exact ⟨[], now, fails, beats, rfl, hlate⟩
    · exact ⟨beat :: before, now, fails, after, rfl, hlate⟩

theorem not_overdue_nil : ¬ Overdue late sent [] := by
  rintro ⟨before, now, fails, after, heq, -⟩
  exact absurd heq.symm (List.append_ne_nil_of_right_ne_nil _ (List.cons_ne_nil _ _))

/-- The first of the pings that are out is the oldest, and has been out the longest. -/
theorem late_iff [Preorder τ] (hlate : OldestFirst late) (hsorted : sent.Pairwise (· ≤ ·))
    (now : τ) :
    (sent.head?.any fun since => late since now) = true ↔
      ∃ since ∈ sent, late since now = true := by
  cases sent with
  | nil => exact iff_of_false Bool.false_ne_true nofun
  | cons oldest sent =>
    rw [List.head?_cons, Option.any_some]
    refine ⟨fun hold => ⟨oldest, List.mem_cons_self, hold⟩, ?_⟩
    rintro ⟨since, hmem, hold⟩
    rcases List.mem_cons.1 hmem with rfl | hmem
    · exact hold
    · exact hlate ((List.pairwise_cons.1 hsorted).1 since hmem) hold

/-- **Main result.** What does not answer is dropped if and only if something else drops it, or one
of its pings is out too long. -/
theorem cut_iff [Preorder τ] (hlate : OldestFirst late) (hsilent : .answer ∉ beats)
    (hsorted : (sent ++ times beats).Pairwise (· ≤ ·)) :
    Cut late (some sent.head?) beats ↔
      (∃ beat ∈ beats, beat.Drops) ∨ Overdue late sent beats := by
  induction beats generalizing sent with
  | nil =>
    refine iff_of_false not_cut_nil ?_
    rintro (⟨_, hmem, -⟩ | hoverdue)
    · cases hmem
    · exact not_overdue_nil hoverdue
  | cons beat beats ih =>
    have hrest : .answer ∉ beats := fun hmem => hsilent (List.mem_cons_of_mem _ hmem)
    rw [cut_cons, overdue_cons, List.exists_mem_cons_iff]
    -- a beat that neither drops it nor finds an old ping only changes the pings that are out
    have hpass : ¬ beat.Drops →
        (¬ ∃ now fails, beat = .tick now fails ∧ ∃ since ∈ sent, late since now = true) →
        next late (some sent.head?) beat = some (out sent beat).head? →
        (out sent beat ++ times beats).Pairwise (· ≤ ·) →
        (Cut late (next late (some sent.head?) beat) beats ↔
          (beat.Drops ∨ ∃ beat ∈ beats, beat.Drops) ∨
            (∃ now fails, beat = .tick now fails ∧ ∃ since ∈ sent, late since now = true) ∨
              Overdue late (out sent beat) beats) := by
      intro hdrops hlate hnext hsorted
      rw [or_iff_right hdrops, or_iff_right hlate, hnext]
      exact ih hrest hsorted
    cases beat with
    | tick now fails =>
      have hfirst := late_iff hlate (List.pairwise_append.1 hsorted).1 now
      by_cases hold : ∃ since ∈ sent, late since now = true
      · have hnext : next late (some sent.head?) (.tick now fails) = none := by
          simp [next, hfirst.2 hold]
        rw [hnext]
        exact iff_of_true cut_none (.inr (.inl ⟨now, fails, rfl, hold⟩))
      · cases fails with
        | true =>
          have hnext : next late (some sent.head?) (.tick now true) = none := by simp [next]
          rw [hnext]
          exact iff_of_true cut_none (.inl (.inl (.inr ⟨now, rfl⟩)))
        | false =>
          refine hpass (by simp [Drops]) ?_ ?_ ?_
          · rintro ⟨now', _, heq, hold'⟩
            obtain ⟨rfl, -⟩ := Beat.tick.inj heq
            exact hold hold'
          · have hearly := Bool.eq_false_iff.2 fun h => hold (hfirst.1 h)
            rw [out, List.head?_append]
            simp [next, hearly]
          · rw [out, List.append_assoc]
            exact hsorted
    | answer => exact absurd List.mem_cons_self hsilent
    | watch =>
      exact hpass (by simp [Drops]) (by simp) rfl (List.pairwise_append.1 hsorted).2.1
    | unwatch => exact iff_of_true cut_none (.inl (.inl (.inl rfl)))
    | other => exact hpass (by simp [Drops]) (by simp) rfl hsorted

/-- A ping that is out is overdue at a tick that is too late for it. -/
theorem overdue_of_mem (hunbroken : Unbroken beats) {since now : τ} (hsince : since ∈ sent)
    (hnow : now ∈ times beats) (hlate : late since now = true) : Overdue late sent beats := by
  induction beats generalizing sent with
  | nil => cases hnow
  | cons beat beats ih =>
    obtain ⟨hbeat, hrest⟩ := unbroken_cons.1 hunbroken
    rw [overdue_cons]
    cases beat with
    | tick now' fails =>
      rcases List.mem_cons.1 hnow with rfl | hnow
      · exact .inl ⟨now, fails, rfl, since, hsince, hlate⟩
      · exact .inr (ih hrest (List.mem_append_left _ hsince) hnow)
    | answer => exact absurd rfl hbeat.1
    | watch => exact absurd rfl hbeat.2.1
    | unwatch => exact absurd rfl hbeat.2.2
    | other => exact .inr (ih hrest hsince hnow)

/-- So is the ping of the first tick. -/
theorem overdue_of_first (hunbroken : Unbroken beats) {since now : τ} {ticks : List τ}
    (htimes : times beats = since :: ticks) (hnow : now ∈ ticks) (hlate : late since now = true) :
    Overdue late sent beats := by
  induction beats generalizing sent with
  | nil => cases htimes
  | cons beat beats ih =>
    obtain ⟨hbeat, hrest⟩ := unbroken_cons.1 hunbroken
    rw [overdue_cons]
    cases beat with
    | tick now' fails =>
      obtain ⟨rfl, rfl⟩ := List.cons.inj htimes
      exact .inr (overdue_of_mem hrest (List.mem_append_right _ List.mem_cons_self) hnow hlate)
    | answer => exact absurd rfl hbeat.1
    | watch => exact absurd rfl hbeat.2.1
    | unwatch => exact absurd rfl hbeat.2.2
    | other => exact .inr (ih hrest htimes)

/-- Ticks that are at most `gap` apart: one comes in any `gap` before the last of them. -/
theorem exists_tick [AddCommGroup τ] [LinearOrder τ] [IsOrderedAddMonoid τ]
    {gap start now late : τ} {ticks : List τ}
    (hchain : (start :: ticks).IsChain fun tick next => next ≤ tick + gap) (hstart : start < now)
    (hlate : late ∈ ticks) (hnow : now ≤ late) :
    ∃ tick ∈ ticks, now ≤ tick ∧ tick < now + gap := by
  induction ticks generalizing start with
  | nil => cases hlate
  | cons tick ticks ih =>
    obtain ⟨hgap, hchain⟩ := List.isChain_cons_cons.1 hchain
    by_cases hreached : now ≤ tick
    · exact ⟨tick, List.mem_cons_self, hreached,
        hgap.trans_lt (add_lt_add_of_lt_of_le hstart le_rfl)⟩
    · have hrest : late ∈ ticks := (List.mem_cons.1 hlate).resolve_left fun heq =>
        hreached (heq ▸ hnow)
      obtain ⟨found, hmem, hfound⟩ := ih hchain (not_le.1 hreached) hrest
      exact ⟨found, List.mem_cons_of_mem _ hmem, hfound⟩

/-! ## Answers -/

/-- A ping is without an answer: its tick, and no answer since. -/
theorem tick_of_marked {since : τ}
    (h : beats.foldl (next late) none = some (some since)) :
    ∃ before fails after, beats = before ++ .tick since fails :: after ∧ .answer ∉ after ∧
      (before ++ [.tick since fails]).foldl (next late) none ≠ none := by
  induction beats using List.reverseRecOn with
  | nil => cases h
  | append_singleton beats beat ih =>
    -- the mark was there before a beat that is no answer
    have hkept : beats.foldl (next late) none = some (some since) → beat ≠ .answer →
        ∃ before fails after, beats ++ [beat] = before ++ .tick since fails :: after ∧
          .answer ∉ after ∧
          (before ++ [.tick since fails]).foldl (next late) none ≠ none := by
      intro hmarked hbeat
      obtain ⟨before, fails, after, heq, hsilent, hwatched⟩ := ih hmarked
      refine ⟨before, fails, after ++ [beat], by rw [heq]; simp, ?_, hwatched⟩
      rw [List.mem_append, List.mem_singleton]
      exact not_or.2 ⟨hsilent, hbeat.symm⟩
    have hmark := h
    rw [List.foldl_append, List.foldl_cons, List.foldl_nil] at hmark
    cases beat with
    | tick now fails =>
      obtain ⟨first, hfirst, hnext⟩ := Option.bind_eq_some_iff.1 hmark
      obtain ⟨-, hsince⟩ := Option.ite_none_left_eq_some.1 hnext
      cases first with
      | none =>
        obtain rfl : now = since := by simpa using hsince
        refine ⟨beats, fails, [], rfl, List.not_mem_nil, ?_⟩
        rw [h]
        exact Option.some_ne_none _
      | some since' =>
        obtain rfl : since' = since := by simpa using hsince
        exact hkept hfirst nofun
    | answer =>
      obtain ⟨_, -, hnext⟩ := Option.map_eq_some_iff.1 hmark
      cases hnext
    | watch => cases hmark
    | unwatch => cases hmark
    | other => exact hkept hmark nofun

/-- What answers every ping before the next tick has no ping out at any tick. -/
theorem kept_of_answered {before after : List (Beat τ)} {now : τ} {fails : Bool}
    (hanswered : Answered late (before ++ .tick now fails :: after))
    (hwatched : before.foldl (next late) none ≠ none) :
    next late (before.foldl (next late) none) (.tick now fails) ≠ none := by
  obtain ⟨hsent, hbetween⟩ := hanswered
  obtain ⟨first, hfirst⟩ := Option.ne_none_iff_exists'.1 hwatched
  rw [hfirst]
  cases first with
  | none =>
    have hfails : fails = false := Bool.eq_false_iff.2 fun htrue =>
      hsent now (htrue ▸ List.mem_append_right _ List.mem_cons_self)
    simp [next, hfails]
  | some since =>
    obtain ⟨before', fails', between, rfl, hsilent, hpinged⟩ := tick_of_marked hfirst
    refine absurd (hbetween before' since fails' between now fails after ?_ hpinged) hsilent
    simp

end marks

end Beat

end RcOnline.Lib
