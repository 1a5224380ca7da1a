import Mathlib

/-!
# Tables

A table is a list of rows with distinct keys. A statement updates the rows that meet a test
(`Table.update`) or deletes them (`Table.delete`), or appends a row unless a constraint forbids it
(`Table.insert?`). A row is read through membership or by its key (`get?_eq_some_iff`); an update is
a map over rows (`mem_update`), so what it does to one row never depends on the others.
-/

namespace RcOnline.Lib

/-- Rows of a kind are told apart by their keys. -/
class Row (α : Type*) (κ : outParam Type*) where
  key : α → κ

structure Table (α : Type*) {κ : Type*} [Row α κ] where
  rows : List α
  nodup : (rows.map Row.key).Nodup

/-- What `update … set … where` does to one row. -/
def patch {α : Type*} (p : α → Bool) (f : α → α) (r : α) : α := if p r then f r else r

section patch

variable {α β : Type*} {p : α → Bool} {f : α → α} {r : α}

theorem patch_of (h : p r = true) : patch p f r = f r := if_pos h

theorem patch_of_not (h : ¬ p r = true) : patch p f r = r := if_neg h

theorem patch_cases (p : α → Bool) (f : α → α) (r : α) :
    patch p f r = r ∨ (p r = true ∧ patch p f r = f r) := by
  by_cases hp : p r = true
  · exact .inr ⟨hp, patch_of hp⟩
  · exact .inl (patch_of_not hp)

/-- A column that the update does not set. -/
theorem patch_column {g : α → β} (hf : ∀ r, g (f r) = g r) : g (patch p f r) = g r := by
  unfold patch
  split
  · exact hf r
  · rfl

end patch

namespace Table

variable {α κ : Type*} [Row α κ]

instance [DecidableEq α] : DecidableEq (Table α) := fun t u =>
  decidable_of_iff (t.rows = u.rows) (by cases t; cases u; simp)

@[ext] theorem ext {t u : Table α} (h : t.rows = u.rows) : t = u := by
  cases t; cases u; simp_all

def empty : Table α := ⟨[], List.nodup_nil⟩

/-- `select … where p`. -/
def select (t : Table α) (p : α → Bool) : List α := t.rows.filter p

/-- `update … set f where p`; an update never sets the key. -/
def update (t : Table α) (p : α → Bool) (f : α → α)
    (hf : ∀ r, Row.key (f r) = Row.key r := by intro; rfl) : Table α where
  rows := t.rows.map (patch p f)
  nodup := by
    have hkey : (t.rows.map (patch p f)).map Row.key = t.rows.map Row.key := by
      rw [List.map_map]
      exact List.map_congr_left fun r _ => patch_column hf
    rw [hkey]
    exact t.nodup

variable {t : Table α} {p : α → Bool} {f : α → α} {hf : ∀ r, Row.key (f r) = Row.key r}

theorem mem_update {r : α} : r ∈ (t.update p f hf).rows ↔ ∃ a ∈ t.rows, patch p f a = r :=
  List.mem_map

theorem mem_update_of {a : α} (ha : a ∈ t.rows) (hp : p a = true) :
    f a ∈ (t.update p f hf).rows := mem_update.2 ⟨a, ha, patch_of hp⟩

/-- A row after an update is a new version of a row that it met, or one that it did not. -/
theorem of_mem_update {a : α} (h : a ∈ t.rows.map (patch p f)) :
    (∃ r ∈ t.rows, p r = true ∧ a = f r) ∨ (a ∈ t.rows ∧ ¬ p a = true) := by
  obtain ⟨r, hr, rfl⟩ := List.mem_map.1 h
  by_cases hp : p r = true
  · exact .inl ⟨r, hr, hp, patch_of hp⟩
  · rw [patch_of_not hp]
    exact .inr ⟨hr, hp⟩

/-- `delete … where p`. -/
def delete (t : Table α) (p : α → Bool) : Table α where
  rows := t.rows.filter fun r => !p r
  nodup := t.nodup.sublist (List.filter_sublist.map Row.key)

theorem mem_delete {a : α} : a ∈ (t.delete p).rows ↔ a ∈ t.rows ∧ p a = false := by
  rw [delete, List.mem_filter, Bool.not_eq_true']

/-- Two rows with one key are one row. -/
theorem eq_of_key {a b : α} (ha : a ∈ t.rows) (hb : b ∈ t.rows) (h : Row.key a = Row.key b) :
    a = b := List.inj_on_of_nodup_map t.nodup ha hb h

/-- What an update leaves of a row. -/
theorem eq_of_mem_update {a r : α} (ha : a ∈ t.rows) (hr : r ∈ (t.update p f hf).rows)
    (hkey : Row.key r = Row.key a) : r = patch p f a := by
  obtain ⟨old, hold, rfl⟩ := mem_update.1 hr
  have hkept : Row.key (patch p f old) = Row.key old := patch_column hf
  rw [eq_of_key hold ha (hkept.symm.trans hkey)]

/-- A test that at most one row passes. -/
theorem length_select_le_one
    (h : ∀ a ∈ t.rows, ∀ b ∈ t.rows, p a = true → p b = true → a = b) :
    (t.select p).length ≤ 1 := by
  have hnodup : (t.select p).Nodup := (List.Nodup.of_map _ t.nodup).filter p
  cases hrows : t.select p with
  | nil => simp
  | cons a rest =>
    cases rest with
    | nil => simp
    | cons b rest =>
      have hmem : ∀ r ∈ t.select p, r ∈ t.rows ∧ p r = true := fun r => List.mem_filter.1
      rw [hrows] at hnodup hmem
      obtain ⟨ha, hpa⟩ := hmem a (by simp)
      obtain ⟨hb, hpb⟩ := hmem b (by simp)
      obtain rfl := h a ha b hb hpa hpb
      simp at hnodup

/-- An update that meets no row. -/
theorem update_eq_self (h : ∀ r ∈ t.rows, ¬ p r = true) : t.update p f hf = t := by
  apply ext
  calc t.rows.map (patch p f) = t.rows.map id :=
        List.map_congr_left fun r hr => patch_of_not (h r hr)
    _ = t.rows := List.map_id _

/-- An update of one row that passes a test and then fails another, which elsewhere agrees. -/
theorem countP_update {q q' : α → Bool} {a : α} (ha : a ∈ t.rows)
    (hp : ∀ r ∈ t.rows, p r = true ↔ Row.key r = Row.key a) (hq : q a = true)
    (hq' : q' (f a) = false)
    (hother : ∀ r ∈ t.rows, Row.key r ≠ Row.key a → q' r = q r) :
    (t.update p f hf).rows.countP q' + 1 = t.rows.countP q := by
  obtain ⟨before, after, heq⟩ := List.append_of_mem ha
  have hnd := t.nodup
  rw [heq, List.map_append, List.map_cons, List.nodup_append, List.nodup_cons] at hnd
  -- the rows on either side have other keys
  have hside : ∀ side : List α, (∀ r ∈ side, r ∈ t.rows ∧ Row.key r ≠ Row.key a) →
      (side.map (patch p f)).countP q' = side.countP q := by
    intro side hside
    rw [List.countP_map]
    refine List.countP_congr fun r hr => ?_
    obtain ⟨hrow, hkey⟩ := hside r hr
    rw [Function.comp_apply, patch_of_not (fun h => hkey ((hp r hrow).1 h)), hother r hrow hkey]
  change (t.rows.map (patch p f)).countP q' + 1 = _
  rw [heq, List.map_append, List.map_cons, patch_of ((hp a ha).2 rfl), List.countP_append,
    List.countP_append, List.countP_cons_of_neg (by simp [hq']), List.countP_cons_of_pos hq,
    hside before, hside after, Nat.add_assoc]
  · intro r hr
    refine ⟨heq ▸ List.mem_append_right before (List.mem_cons_of_mem a hr), fun h => ?_⟩
    exact hnd.2.1.1 (h ▸ List.mem_map_of_mem hr)
  · intro r hr
    refine ⟨heq ▸ List.mem_append_left _ hr, fun h => ?_⟩
    exact hnd.2.2 _ (List.mem_map_of_mem hr) _ List.mem_cons_self h

/-! ## Tables that correspond -/

/-- Every row of one table is related to a row of the other, and the other way round. -/
structure Corresponds (R : α → α → Prop) (t u : Table α) : Prop where
  after : ∀ r ∈ t.rows, ∃ r' ∈ u.rows, R r r'
  before : ∀ r' ∈ u.rows, ∃ r ∈ t.rows, R r r'

section corresponds

variable {R S U : α → α → Prop} {t u v : Table α}

theorem Corresponds.refl (h : ∀ r, R r r) (t : Table α) : Corresponds R t t :=
  ⟨fun r hr => ⟨r, hr, h r⟩, fun r hr => ⟨r, hr, h r⟩⟩

theorem Corresponds.mono (h : Corresponds R t u) (hRS : ∀ {a b}, R a b → S a b) :
    Corresponds S t u := by
  refine ⟨fun r hr => ?_, fun r' hr' => ?_⟩
  · obtain ⟨r', hr', hrel⟩ := h.after r hr
    exact ⟨r', hr', hRS hrel⟩
  · obtain ⟨r, hr, hrel⟩ := h.before r' hr'
    exact ⟨r, hr, hRS hrel⟩

theorem Corresponds.comp (h : Corresponds R t u) (h' : Corresponds S u v)
    (hcomp : ∀ {a b c}, R a b → S b c → U a c) : Corresponds U t v := by
  constructor
  · intro a ha
    obtain ⟨b, hb, hab⟩ := h.after a ha
    obtain ⟨c, hc, hbc⟩ := h'.after b hb
    exact ⟨c, hc, hcomp hab hbc⟩
  · intro c hc
    obtain ⟨b, hb, hbc⟩ := h'.before c hc
    obtain ⟨a, ha, hab⟩ := h.before b hb
    exact ⟨a, ha, hcomp hab hbc⟩

/-- A table corresponds to its update. -/
theorem corresponds_update {p : α → Bool} {f : α → α} {hf : ∀ r, Row.key (f r) = Row.key r}
    (hp : ∀ r ∈ t.rows, p r = true → R r (f r)) (hrefl : ∀ r, R r r) :
    Corresponds R t (t.update p f hf) := by
  have hpatch : ∀ r ∈ t.rows, R r (patch p f r) := by
    intro r hr
    by_cases h : p r = true
    · rw [patch_of h]
      exact hp r hr h
    · rw [patch_of_not h]
      exact hrefl r
  constructor
  · exact fun r hr => ⟨_, mem_update.2 ⟨r, hr, rfl⟩, hpatch r hr⟩
  · intro r' hr'
    obtain ⟨r, hr, rfl⟩ := mem_update.1 hr'
    exact ⟨r, hr, hpatch r hr⟩

/-- As `corresponds_update`, of the rows. -/
theorem corresponds_of_rows {p : α → Bool} {f : α → α} (hrows : u.rows = t.rows.map (patch p f))
    (hR : ∀ r ∈ t.rows, R r (patch p f r)) : Corresponds R t u := by
  constructor
  · exact fun r hr => ⟨_, hrows ▸ List.mem_map_of_mem hr, hR r hr⟩
  · intro r' hr'
    rw [hrows] at hr'
    obtain ⟨r, hr, rfl⟩ := List.mem_map.1 hr'
    exact ⟨r, hr, hR r hr⟩

end corresponds

/-! ## Replacing rows by key -/

variable [DecidableEq κ]

/-- The row that stands in for `r`: the one of `news` with its key, or itself. -/
def standIn (news : List α) (r : α) : α := (news.find? (Row.key · = Row.key r)).getD r

theorem key_standIn (news : List α) (r : α) : Row.key (standIn news r) = Row.key r := by
  unfold standIn
  cases hfind : news.find? (Row.key · = Row.key r) with
  | none => rfl
  | some a => simpa using List.find?_some hfind

/-- The table with each row replaced by the one of `news` that has its key. -/
def replace (t : Table α) (news : List α) : Table α where
  rows := t.rows.map (standIn news)
  nodup := by
    have hkey : (t.rows.map (standIn news)).map Row.key = t.rows.map Row.key := by
      rw [List.map_map]
      exact List.map_congr_left fun r _ => key_standIn news r
    rw [hkey]
    exact t.nodup

theorem standIn_of_mem {news : List α} (hnd : (news.map Row.key).Nodup) {n : α} (hn : n ∈ news)
    {r : α} (h : Row.key n = Row.key r) : standIn news r = n := by
  unfold standIn
  cases hfind : news.find? (Row.key · = Row.key r) with
  | none => exact absurd (decide_eq_true h) (List.find?_eq_none.1 hfind n hn)
  | some a =>
    have hkey : Row.key a = Row.key r := by simpa using List.find?_some hfind
    exact List.inj_on_of_nodup_map hnd (List.mem_of_find?_eq_some hfind) hn (hkey.trans h.symm)

theorem standIn_of_notMem {news : List α} {r : α} (h : Row.key r ∉ news.map Row.key) :
    standIn news r = r := by
  have hfind : news.find? (Row.key · = Row.key r) = none := by
    rw [List.find?_eq_none]
    intro n hn
    rw [decide_eq_true_eq]
    intro heq
    exact h (heq ▸ List.mem_map_of_mem hn)
  rw [standIn, hfind, Option.getD_none]

theorem standIn_singleton {a r : α} :
    standIn [a] r = if Row.key a = Row.key r then a else r := by
  unfold standIn
  by_cases h : Row.key a = Row.key r <;> simp [h]

/-- The rows after a replacement: the new ones, and those whose key is not among theirs. -/
theorem mem_replace {t : Table α} {news : List α} (hnd : (news.map Row.key).Nodup)
    (hsub : ∀ n ∈ news, ∃ r ∈ t.rows, Row.key r = Row.key n) {a : α} :
    a ∈ (t.replace news).rows ↔ a ∈ news ∨ (a ∈ t.rows ∧ Row.key a ∉ news.map Row.key) := by
  constructor
  · intro h
    obtain ⟨r, hr, rfl⟩ := List.mem_map.1 h
    by_cases hk : Row.key r ∈ news.map Row.key
    · obtain ⟨n, hn, hkey⟩ := List.mem_map.1 hk
      rw [standIn_of_mem hnd hn hkey]
      exact .inl hn
    · rw [standIn_of_notMem hk]
      exact .inr ⟨hr, hk⟩
  · rintro (hn | ⟨ha, hk⟩)
    · obtain ⟨r, hr, hkey⟩ := hsub a hn
      exact List.mem_map.2 ⟨r, hr, standIn_of_mem hnd hn hkey.symm⟩
    · exact List.mem_map.2 ⟨a, ha, standIn_of_notMem hk⟩

theorem replace_nil (t : Table α) : t.replace [] = t := by
  apply ext
  calc t.rows.map (standIn []) = t.rows.map id := List.map_congr_left fun _ _ => rfl
    _ = t.rows := List.map_id _

/-- Replacing rows by themselves. -/
theorem replace_self {t : Table α} {news : List α} (hnd : (news.map Row.key).Nodup)
    (h : ∀ n ∈ news, n ∈ t.rows) : t.replace news = t := by
  apply ext
  calc t.rows.map (standIn news) = t.rows.map id := by
        refine List.map_congr_left fun r hr => ?_
        by_cases hk : Row.key r ∈ news.map Row.key
        · obtain ⟨n, hn, hkey⟩ := List.mem_map.1 hk
          rw [standIn_of_mem hnd hn hkey]
          exact eq_of_key (h n hn) hr hkey
        · exact standIn_of_notMem hk
    _ = t.rows := List.map_id _

/-- An update of the one row with a given key. -/
theorem update_eq_replace {t : Table α} {a : α} {p : α → Bool} {f : α → α}
    {hf : ∀ r, Row.key (f r) = Row.key r} (hp : ∀ r, p r = true ↔ Row.key r = Row.key a)
    (ha : a ∈ t.rows) : t.update p f hf = t.replace [f a] := by
  apply ext
  refine List.map_congr_left fun r hr => ?_
  rw [standIn_singleton, hf]
  by_cases hra : Row.key a = Row.key r
  · obtain rfl := eq_of_key ha hr hra
    rw [patch_of ((hp a).2 rfl), if_pos rfl]
  · rw [patch_of_not (fun h => hra ((hp r).1 h).symm), if_neg hra]

/-- Replacing one row, then others. -/
theorem replace_replace {t : Table α} {a : α} {news : List α}
    (hk : Row.key a ∉ news.map Row.key) : (t.replace [a]).replace news = t.replace (a :: news) := by
  apply ext
  change (t.rows.map (standIn [a])).map (standIn news) = t.rows.map (standIn (a :: news))
  rw [List.map_map]
  refine List.map_congr_left fun r _ => ?_
  rw [Function.comp_apply, standIn_singleton]
  by_cases hra : Row.key a = Row.key r
  · rw [if_pos hra, standIn_of_notMem hk]
    simp [standIn, hra]
  · rw [if_neg hra]
    simp [standIn, hra]

/-! ## Reading and inserting by key -/

def get? (t : Table α) (k : κ) : Option α := t.rows.find? (Row.key · = k)

/-- `insert … on conflict do nothing`: none when the key is taken or a unique index (`clash`)
holds a row. -/
def insert? (t : Table α) (clash : α → Bool) (r : α) : Option (Table α) :=
  if h : ∀ a ∈ t.rows, Row.key a ≠ Row.key r ∧ clash a = false then
    some
      { rows := t.rows ++ [r]
        nodup := by
          rw [List.map_append, List.nodup_append]
          refine ⟨t.nodup, List.nodup_singleton _, ?_⟩
          intro k hk k' hk' heq
          obtain ⟨a, ha, rfl⟩ := List.mem_map.1 hk
          rw [List.map_singleton, List.mem_singleton] at hk'
          exact (h a ha).1 (heq.trans hk') }
  else none

theorem get?_eq_some_iff {k : κ} {r : α} : t.get? k = some r ↔ r ∈ t.rows ∧ Row.key r = k := by
  constructor
  · intro h
    unfold get? at h
    exact ⟨List.mem_of_find?_eq_some h, by simpa using List.find?_some h⟩
  · rintro ⟨hr, hk⟩
    cases hfind : t.get? k with
    | none => exact absurd (decide_eq_true hk) (List.find?_eq_none.1 hfind r hr)
    | some a =>
      unfold get? at hfind
      have ha := List.mem_of_find?_eq_some hfind
      have hak : Row.key a = k := by simpa using List.find?_some hfind
      rw [eq_of_key ha hr (hak.trans hk.symm)]

theorem get?_update {p : α → Bool} {f : α → α} {hf : ∀ r, Row.key (f r) = Row.key r} (k : κ) :
    (t.update p f hf).get? k = (t.get? k).map (patch p f) := by
  have hkey : ((fun r : α => decide (Row.key r = k)) ∘ patch p f) =
      fun r => decide (Row.key r = k) := by
    funext r
    rw [Function.comp_apply, patch_column hf]
  change (t.rows.map (patch p f)).find? _ = _
  rw [List.find?_map, hkey, get?]

theorem insert?_eq_some {clash : α → Bool} {r : α} {t' : Table α}
    (h : t.insert? clash r = some t') :
    (∀ a ∈ t.rows, Row.key a ≠ Row.key r ∧ clash a = false) ∧ t'.rows = t.rows ++ [r] := by
  unfold insert? at h
  split at h
  · next hfree =>
    obtain rfl := Option.some.inj h
    exact ⟨hfree, rfl⟩
  · cases h

theorem mem_insert? {clash : α → Bool} {r a : α} {t' : Table α}
    (h : t.insert? clash r = some t') : a ∈ t'.rows ↔ a ∈ t.rows ∨ a = r := by
  rw [(insert?_eq_some h).2, List.mem_append, List.mem_singleton]

theorem get?_insert? {clash : α → Bool} {r : α} {t' : Table α} (h : t.insert? clash r = some t')
    (k : κ) : t'.get? k = if Row.key r = k then some r else t.get? k := by
  obtain ⟨hfree, hrows⟩ := insert?_eq_some h
  by_cases hk : Row.key r = k
  · rw [if_pos hk, get?_eq_some_iff, hrows]
    exact ⟨List.mem_append_right _ (List.mem_singleton_self r), hk⟩
  · rw [if_neg hk, get?, hrows, List.find?_append, List.find?_singleton,
      if_neg (by simpa using hk), Option.or_none]
    rfl

theorem get?_delete_key (t : Table α) (k k' : κ) :
    (t.delete (Row.key · = k)).get? k' = if k = k' then none else t.get? k' := by
  by_cases hk : k = k'
  · subst hk
    rw [if_pos rfl, get?, List.find?_eq_none]
    intro a ha hkey
    rw [(mem_delete.1 ha).2] at hkey
    cases hkey
  · rw [if_neg hk]
    cases hget : t.get? k' with
    | none =>
      rw [get?, List.find?_eq_none] at hget ⊢
      exact fun a ha => hget a (mem_delete.1 ha).1
    | some r =>
      obtain ⟨hr, hkey⟩ := get?_eq_some_iff.1 hget
      have hother : Row.key r ≠ k := fun heq => hk (heq.symm.trans hkey)
      exact get?_eq_some_iff.2 ⟨mem_delete.2 ⟨hr, decide_eq_false hother⟩, hkey⟩

theorem insert?_eq_none_iff {clash : α → Bool} {r : α} :
    t.insert? clash r = none ↔ ∃ a ∈ t.rows, Row.key a = Row.key r ∨ clash a = true := by
  unfold insert?
  split
  · next h =>
    refine ⟨nofun, ?_⟩
    rintro ⟨a, ha, hk | hc⟩
    · exact absurd hk (h a ha).1
    · rw [(h a ha).2] at hc
      cases hc
  · next h =>
    refine ⟨fun _ => ?_, fun _ => rfl⟩
    by_contra hno
    push Not at hno
    exact h fun a ha => ⟨(hno a ha).1, Bool.eq_false_iff.2 (hno a ha).2⟩

end Table

end RcOnline.Lib
