import RcOnline.Lib.Steps

/-!
# Unwinding

An observer sees a view of every state and a label of some events. When the other events keep the
view, and the view after a seen event depends on the view before it and on its label (`Unwinds`),
two runs that look the same from the start and whose labels agree look the same at their ends
(`Unwinds.run`): what the view leaves out cannot be told from what is seen, whatever is interleaved
with the seen events. When moreover a state that looks the same can take the steps that matter
(`Mirrors`), the other run exists (`Mirrors.run`).
-/

namespace RcOnline.Lib

variable {σ ι τ κ : Type*}

/-- What an observer sees follows from what it has seen before. -/
structure Unwinds (step : σ → ι → σ → Prop) (view : σ → τ) (label : ι → Option κ) : Prop where
  hidden : ∀ {s t : σ} {e : ι}, label e = none → step s e t → view t = view s
  seen : ∀ {s s' t t' : σ} {e e' : ι} {k : κ}, view s = view s' → label e = some k →
    label e' = some k → step s e t → step s' e' t' → view t = view t'

/-- The last event that is seen, and what is hidden after it. -/
theorem exists_of_filterMap_snoc {label : ι → Option κ} {es : List ι} {ks : List κ} {k : κ}
    (h : es.filterMap label = ks ++ [k]) :
    ∃ before e after, es = before ++ (e :: after) ∧ before.filterMap label = ks ∧
      label e = some k ∧ after.filterMap label = [] := by
  induction es using List.reverseRecOn with
  | nil => simp at h
  | append_singleton es e ih =>
    rw [List.filterMap_append] at h
    cases hlabel : label e with
    | none =>
      have hnone : [e].filterMap label = [] := by simp [hlabel]
      rw [hnone, List.append_nil] at h
      obtain ⟨before, seen, after, rfl, hbefore, hseen, hafter⟩ := ih h
      refine ⟨before, seen, after ++ [e], by simp, hbefore, hseen, ?_⟩
      rw [List.filterMap_append, hafter, hnone, List.append_nil]
    | some k' =>
      have hsome : [e].filterMap label = [k'] := by simp [hlabel]
      rw [hsome] at h
      obtain ⟨hbefore, hk⟩ := List.append_inj' h rfl
      exact ⟨es, e, [], rfl, hbefore, hlabel.trans (congrArg some (List.singleton_inj.1 hk)), rfl⟩

namespace Unwinds

variable {step : σ → ι → σ → Prop} {view : σ → τ} {label : ι → Option κ}
  {s s' t t' : σ} {es es' : List ι}

theorem hidden_run (h : Unwinds step view label) (hrun : Run step s es t)
    (hlabels : es.filterMap label = []) : view t = view s := by
  have hnone : ∀ e ∈ es, label e = none := List.filterMap_eq_nil_iff.1 hlabels
  exact hrun.invariant_of_mem (I := fun t => view t = view s) rfl
    fun hmem hview hstep => (h.hidden (hnone _ hmem) hstep).trans hview

/-- Two runs with the same labels look the same. -/
theorem run (h : Unwinds step view label) (hstart : view s = view s') (hrun : Run step s es t)
    (hrun' : Run step s' es' t') (hlabels : es.filterMap label = es'.filterMap label) :
    view t = view t' := by
  generalize hks : es'.filterMap label = ks at hlabels
  induction ks using List.reverseRecOn generalizing es es' t t' with
  | nil =>
    rw [h.hidden_run hrun hlabels, h.hidden_run hrun' hks]
    exact hstart
  | append_singleton ks k ih =>
    obtain ⟨before, e, after, rfl, hbefore, he, hafter⟩ := exists_of_filterMap_snoc hlabels
    obtain ⟨before', e', after', rfl, hbefore', he', hafter'⟩ := exists_of_filterMap_snoc hks
    rw [← List.singleton_append, ← List.append_assoc] at hrun hrun'
    obtain ⟨v, hv, hrest⟩ := hrun.split
    obtain ⟨v', hv', hrest'⟩ := hrun'.split
    obtain ⟨u, hu, hstep⟩ := hv.last
    obtain ⟨u', hu', hstep'⟩ := hv'.last
    rw [h.hidden_run hrest hafter, h.hidden_run hrest' hafter']
    exact h.seen (ih hu hu' hbefore' hbefore) he he' hstep hstep'

end Unwinds

/-- A state that looks the same can take the steps that are kept; the others are not seen. -/
structure Mirrors (step : σ → ι → σ → Prop) (view : σ → τ) (keeps : ι → Bool) : Prop where
  kept : ∀ {s s' t : σ} {e : ι}, view s = view s' → keeps e = true → step s e t →
    ∃ t', step s' e t' ∧ view t = view t'
  dropped : ∀ {s t : σ} {e : ι}, keeps e = false → step s e t → view t = view s

/-- A run is mirrored by what is kept of it. -/
theorem Mirrors.run {step : σ → ι → σ → Prop} {view : σ → τ} {keeps : ι → Bool} {s s' t : σ}
    {es : List ι} (h : Mirrors step view keeps) (hstart : view s = view s')
    (hrun : Run step s es t) : ∃ t', Run step s' (es.filter keeps) t' ∧ view t = view t' := by
  induction hrun with
  | nil => exact ⟨s', .nil, hstart⟩
  | @snoc es t u e hrun hstep ih =>
    obtain ⟨t', hrun', hview⟩ := ih
    rw [List.filter_append]
    cases hkept : keeps e with
    | true =>
      obtain ⟨u', hstep', hview'⟩ := h.kept hview hkept hstep
      rw [List.filter_singleton, hkept]
      exact ⟨u', .snoc hrun' hstep', hview'⟩
    | false =>
      rw [List.filter_singleton, hkept]
      refine ⟨t', ?_, (h.dropped hkept hstep).trans hview⟩
      rwa [cond_false, List.append_nil]

end RcOnline.Lib
