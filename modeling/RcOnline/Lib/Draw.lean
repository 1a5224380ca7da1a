import Mathlib

/-!
# Drawing an amount from a row of stocks

`draw stocks need` walks the stocks in order, takes from each as much as it has and is still
needed, and skips those that have nothing. It takes `min need (capacity stocks)` in all
(`sum_draw`), never more than a stock holds (`le_stock_of_mem_draw`), and each stock at most once
(`draw_sublist`).
-/

namespace RcOnline.Lib

variable {α : Type*}

/-- The stocks drawn on, in order, with the amount taken from each. -/
def draw : List (α × Int) → Int → List (α × Int)
  | [], _ => []
  | (a, stock) :: stocks, need =>
    if need = 0 then []
    else if stock ≤ 0 then draw stocks need
    else (a, min stock need) :: draw stocks (need - min stock need)

/-- What the stocks can give: a stock in debt gives nothing. -/
def capacity (stocks : List (α × Int)) : Int := (stocks.map fun s => max 0 s.2).sum

@[simp] theorem draw_nil (need : Int) : draw ([] : List (α × Int)) need = [] := rfl

@[simp] theorem draw_zero (stocks : List (α × Int)) : draw stocks 0 = [] := by
  cases stocks <;> simp [draw]

theorem draw_cons_of_nonpos {a : α} {stock need : Int} {stocks : List (α × Int)}
    (h : stock ≤ 0) : draw ((a, stock) :: stocks) need = draw stocks need := by
  by_cases hn : need = 0
  · simp [hn]
  · rw [draw, if_neg hn, if_pos h]

theorem draw_cons_of_pos {a : α} {stock need : Int} {stocks : List (α × Int)}
    (hn : need ≠ 0) (h : 0 < stock) :
    draw ((a, stock) :: stocks) need =
      (a, min stock need) :: draw stocks (need - min stock need) := by
  rw [draw, if_neg hn, if_neg (by omega)]

@[simp] theorem capacity_nil : capacity ([] : List (α × Int)) = 0 := rfl

@[simp] theorem capacity_cons (s : α × Int) (stocks : List (α × Int)) :
    capacity (s :: stocks) = max 0 s.2 + capacity stocks := rfl

theorem capacity_nonneg (stocks : List (α × Int)) : 0 ≤ capacity stocks :=
  List.sum_nonneg fun x hx => by
    obtain ⟨s, -, rfl⟩ := List.mem_map.1 hx
    omega

/-- **A draw takes what is needed, or all there is.** -/
theorem sum_draw (stocks : List (α × Int)) {need : Int} (h : 0 ≤ need) :
    ((draw stocks need).map Prod.snd).sum = min need (capacity stocks) := by
  induction stocks generalizing need with
  | nil => simp; omega
  | cons s stocks ih =>
    obtain ⟨a, stock⟩ := s
    have hc := capacity_nonneg stocks
    by_cases hn : need = 0
    · subst hn
      have := capacity_nonneg ((a, stock) :: stocks)
      simp; omega
    · by_cases hs : stock ≤ 0
      · rw [draw_cons_of_nonpos hs, ih h, capacity_cons]
        simp only
        omega
      · rw [draw_cons_of_pos hn (by omega), List.map_cons, List.sum_cons, ih (by omega),
          capacity_cons]
        simp only
        omega

theorem pos_of_mem_draw {stocks : List (α × Int)} {need : Int} (h : 0 ≤ need) {p : α × Int}
    (hp : p ∈ draw stocks need) : 0 < p.2 := by
  induction stocks generalizing need with
  | nil => cases hp
  | cons s stocks ih =>
    obtain ⟨a, stock⟩ := s
    by_cases hn : need = 0
    · simp [hn] at hp
    · by_cases hs : stock ≤ 0
      · rw [draw_cons_of_nonpos hs] at hp
        exact ih h hp
      · rw [draw_cons_of_pos hn (by omega)] at hp
        rcases List.mem_cons.1 hp with rfl | hp
        · simp only; omega
        · exact ih (by omega) hp

/-- No stock is overdrawn. -/
theorem le_stock_of_mem_draw {stocks : List (α × Int)} {need : Int} {p : α × Int}
    (hp : p ∈ draw stocks need) : ∃ stock, (p.1, stock) ∈ stocks ∧ p.2 ≤ stock := by
  induction stocks generalizing need with
  | nil => cases hp
  | cons s stocks ih =>
    obtain ⟨a, stock⟩ := s
    have later : ∀ {need'}, p ∈ draw stocks need' →
        ∃ stock', (p.1, stock') ∈ (a, stock) :: stocks ∧ p.2 ≤ stock' := fun hp => by
      obtain ⟨stock', hm, hle⟩ := ih hp
      exact ⟨stock', List.mem_cons_of_mem _ hm, hle⟩
    by_cases hn : need = 0
    · simp [hn] at hp
    · by_cases hs : stock ≤ 0
      · rw [draw_cons_of_nonpos hs] at hp
        exact later hp
      · rw [draw_cons_of_pos hn (by omega)] at hp
        rcases List.mem_cons.1 hp with rfl | hp
        · exact ⟨stock, List.mem_cons_self, by simp only; omega⟩
        · exact later hp

theorem draw_sublist (stocks : List (α × Int)) (need : Int) :
    ((draw stocks need).map Prod.fst).Sublist (stocks.map Prod.fst) := by
  induction stocks generalizing need with
  | nil => simp
  | cons s stocks ih =>
    obtain ⟨a, stock⟩ := s
    by_cases hn : need = 0
    · simp [hn]
    · by_cases hs : stock ≤ 0
      · rw [draw_cons_of_nonpos hs]
        exact (ih need).cons a
      · rw [draw_cons_of_pos hn (by omega)]
        exact (ih _).cons_cons a

/-- Before a stock is drawn on, every one before it is drawn empty. -/
theorem draw_split {stocks : List (α × Int)} {need : Int} {before after : List (α × Int)}
    {p : α × Int} (h : draw stocks need = before ++ p :: after) :
    ∃ first stock rest, stocks = first ++ (p.1, stock) :: rest ∧
      before = first.filter (0 < ·.2) := by
  induction stocks generalizing need before with
  | nil => simp at h
  | cons s stocks ih =>
    obtain ⟨a, stock⟩ := s
    by_cases hn : need = 0
    · simp [hn] at h
    · by_cases hs : stock ≤ 0
      · rw [draw_cons_of_nonpos hs] at h
        obtain ⟨first, stock', rest, rfl, hbefore⟩ := ih h
        refine ⟨(a, stock) :: first, stock', rest, rfl, ?_⟩
        rw [List.filter_cons_of_neg (by simpa using hs), hbefore]
      · rw [draw_cons_of_pos hn (by omega)] at h
        cases before with
        | nil =>
          obtain ⟨rfl, -⟩ := List.cons.inj h
          exact ⟨[], stock, stocks, rfl, rfl⟩
        | cons q before =>
          obtain ⟨rfl, hrest⟩ := List.cons.inj h
          obtain ⟨first, stock', rest, rfl, hbefore⟩ := ih hrest
          -- more is needed, so the stock was taken whole
          have hmore : need - min stock need ≠ 0 := by
            intro hzero
            rw [hzero, draw_zero] at hrest
            exact List.cons_ne_nil _ _ (List.append_eq_nil_iff.1 hrest.symm).2
          have hwhole : min stock need = stock := by omega
          refine ⟨(a, stock) :: first, stock', rest, rfl, ?_⟩
          rw [List.filter_cons_of_pos (by simpa using hs), hbefore, hwhole]

/-- Nothing is drawn exactly when no stock has anything. -/
theorem draw_eq_nil_iff {stocks : List (α × Int)} {need : Int} (h : 0 < need) :
    draw stocks need = [] ↔ capacity stocks = 0 := by
  have hsum := sum_draw stocks h.le
  have hc := capacity_nonneg stocks
  constructor
  · intro hd
    rw [hd, List.map_nil, List.sum_nil] at hsum
    omega
  · intro hcap
    rw [hcap, min_eq_right h.le] at hsum
    cases hd : draw stocks need with
    | nil => rfl
    | cons p ps =>
      have hps : ∀ x ∈ (draw stocks need).map Prod.snd, 0 < x := fun x hx => by
        obtain ⟨q, hq, rfl⟩ := List.mem_map.1 hx
        exact pos_of_mem_draw h.le hq
      rw [hd] at hps hsum
      have hp := hps p.2 (by simp)
      have hrest : 0 ≤ (ps.map Prod.snd).sum := List.sum_nonneg fun x hx =>
        (hps x (List.mem_cons_of_mem _ hx)).le
      simp only [List.map_cons, List.sum_cons] at hsum
      omega

end RcOnline.Lib
