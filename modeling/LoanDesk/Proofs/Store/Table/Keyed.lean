/-
# What tables hold

A table is determined by what is found in it (`Table.ext`), and its rows are exactly what is found
under some number (`Table.mem_values`). `Table.map` changes every row where it stands, and a table
is *keyed* by a function that gives each row the number under which it stands. Staged changes are put
over a table one by one (`Table.overlay_insert_some`).
-/

import LoanDesk.Store.Table

namespace LoanDesk
namespace Table

variable {α : Type}

/-- Nothing is found under a number below all of those in use. -/
theorem find?_eq_none_of_lt {k : Int} {rows : List (Int × α)} (h : ∀ r ∈ rows, k < r.1) :
    find? k rows = none := by
  induction rows with
  | nil => rfl
  | cons r rest ih =>
    have hr := h r List.mem_cons_self
    rw [find?, if_neg (by omega)]
    exact ih fun x hx => h x (List.mem_cons_of_mem _ hx)

/-- In rows whose numbers ascend, each is found under its own. -/
theorem find?_eq_some_iff {rows : List (Int × α)} (h : rows.Pairwise fun a b => a.1 < b.1)
    {k : Int} {a : α} : find? k rows = some a ↔ (k, a) ∈ rows := by
  induction rows with
  | nil => simp [find?]
  | cons r rest ih =>
    obtain ⟨i, b⟩ := r
    obtain ⟨hlt, hrest⟩ := List.pairwise_cons.1 h
    rw [find?, List.mem_cons, Prod.mk.injEq]
    split
    · rename_i hik
      subst hik
      refine ⟨fun he => Or.inl ⟨rfl, (Option.some.inj he).symm⟩, ?_⟩
      rintro (⟨-, rfl⟩ | hm)
      · rfl
      · have := hlt _ hm
        simp at this
    · rename_i hik
      rw [ih hrest]
      refine ⟨Or.inr, ?_⟩
      rintro (⟨rfl, -⟩ | hm)
      · exact absurd rfl hik
      · exact hm

/-- What is found under a number is the row that stands there. -/
theorem get?_eq_some_iff {t : Table α} {k : Int} {a : α} : t.get? k = some a ↔ (k, a) ∈ t.rows :=
  find?_eq_some_iff t.sorted

/-- **A table is what is found in it.**  The order of the rows leaves no choice. -/
theorem ext {t u : Table α} (h : ∀ k, t.get? k = u.get? k) : t = u := by
  have hrows : t.rows = u.rows := by
    have hanti : ∀ a b : Int × α, a ∈ t.rows → b ∈ u.rows → a.1 < b.1 → b.1 < a.1 → a = b := by
      intro a b _ _ hab hba
      omega
    refine List.Perm.eq_of_pairwise hanti t.sorted u.sorted ?_
    show t.rows.Perm u.rows
    · refine (List.perm_ext_iff_of_nodup ?_ ?_).2 fun x => ?_
      · exact t.sorted.imp fun hab he => by subst he; exact absurd hab (by omega)
      · exact u.sorted.imp fun hab he => by subst he; exact absurd hab (by omega)
      · rw [← get?_eq_some_iff (t := t) (k := x.1) (a := x.2), h, get?_eq_some_iff]
  cases t
  cases u
  simpa using hrows

/-- A table without rows is the empty one. -/
theorem eq_empty {t : Table α} (h : t.rows.isEmpty) : t = .empty :=
  ext fun k => by rw [get?, List.isEmpty_iff.1 h]; rfl

/-- The rows of a table are what is found under some number. -/
theorem mem_values {t : Table α} {a : α} : a ∈ t.values ↔ ∃ k, t.get? k = some a := by
  rw [values, List.mem_map]
  constructor
  · rintro ⟨⟨k, b⟩, hm, rfl⟩
    exact ⟨k, get?_eq_some_iff.2 hm⟩
  · rintro ⟨k, hk⟩
    exact ⟨(k, a), get?_eq_some_iff.1 hk, rfl⟩

/-! ### Changing rows where they stand -/

/-- The table with every row changed where it stands. -/
def map (t : Table α) (f : α → α) : Table α :=
  ⟨t.rows.map fun r => (r.1, f r.2), List.pairwise_map.2 t.sorted⟩

/-- What is found in a changed table is what was found, changed. -/
theorem get?_map (t : Table α) (f : α → α) (k : Int) : (t.map f).get? k = (t.get? k).map f := by
  obtain ⟨rows, sorted⟩ := t
  simp only [get?, map]
  clear sorted
  induction rows with
  | nil => rfl
  | cons r rest ih =>
    simp only [List.map_cons, find?]
    split
    · rfl
    · exact ih

/-- A table whose rows stay as they are is that table. -/
theorem map_id (t : Table α) : t.map id = t := by
  cases t
  simp [map]

/-- Two changes one after the other are one change. -/
theorem map_map (t : Table α) (f g : α → α) : (t.map f).map g = t.map (g ∘ f) := by
  refine ext fun k => ?_
  rw [get?_map, get?_map, get?_map, Option.map_map]

/-- The rows of a changed table are the rows, changed. -/
theorem values_map (t : Table α) (f : α → α) : (t.map f).values = t.values.map f := by
  rw [values, values, map, List.map_map, List.map_map]
  rfl

/-- Only the rows that are there matter to how they are changed. -/
theorem map_congr {t : Table α} {f g : α → α} (h : ∀ k a, t.get? k = some a → f a = g a) :
    t.map f = t.map g := by
  refine ext fun k => ?_
  rw [get?_map, get?_map]
  cases hk : t.get? k with
  | none => rfl
  | some a => exact congrArg some (h k a hk)

/-- Of rows that satisfy a condition, what is found is what was found and satisfies it. -/
theorem find?_filterVal (p : α → Bool) (k : Int) (rows : List (Int × α))
    (h : rows.Pairwise fun a b => a.1 < b.1) :
    find? k (rows.filter fun r => p r.2) = (find? k rows).filter p := by
  induction rows with
  | nil => rfl
  | cons r rest ih =>
    obtain ⟨i, b⟩ := r
    obtain ⟨hlt, hrest⟩ := List.pairwise_cons.1 h
    rw [List.filter_cons]
    by_cases hik : i = k
    · subst hik
      have hnone : find? i rest = none := find?_eq_none_of_lt hlt
      by_cases hp : p b
      · simp [hp, find?, Option.filter]
      · simp [hp, find?, ih hrest, hnone, Option.filter]
    · by_cases hp : p b
      · simp [hp, find?, hik, ih hrest]
      · simp [hp, find?, hik, ih hrest]

/-- Of a table's rows that satisfy a condition, what is found is what was found and satisfies it. -/
theorem get?_filter (t : Table α) (p : α → Bool) (k : Int) :
    (t.filter p).get? k = (t.get? k).filter p :=
  find?_filterVal p k t.rows t.sorted

/-- The rows of a part of a table are those that satisfy its condition. -/
theorem values_filter (t : Table α) (p : α → Bool) : (t.filter p).values = t.values.filter p := by
  rw [values, values, List.filter_map]
  rfl

/-- Who looks for less may look among what was looked for before. -/
theorem filter_values_filter {t : Table α} {p q : α → Bool} (h : ∀ a ∈ t.values, q a → p a) :
    (t.filter p).values.filter q = t.values.filter q := by
  rw [values_filter, List.filter_filter]
  refine List.filter_congr fun a ha => ?_
  cases hq : q a with
  | false => rfl
  | true => exact h a ha hq

/-! ### Rows that stand under numbers of their own -/

/-- Every row stands under the number that the key gives it. -/
def Keyed (key : α → Int) (t : Table α) : Prop := ∀ k a, t.get? k = some a → key a = k

/-- In an empty table every row stands under its number. -/
theorem keyed_empty (key : α → Int) : (empty : Table α).Keyed key := by
  intro k a h
  simp at h

/-- The rows of a keyed table are what is found under their own numbers. -/
theorem Keyed.mem_values {key : α → Int} {t : Table α} (h : t.Keyed key) {a : α} :
    a ∈ t.values ↔ t.get? (key a) = some a := by
  rw [Table.mem_values]
  constructor
  · rintro ⟨k, hk⟩
    rw [h k a hk]
    exact hk
  · intro hk
    exact ⟨_, hk⟩

/-- Rows with one key are one row. -/
theorem Keyed.eq_of_key {key : α → Int} {t : Table α} (h : t.Keyed key) {i j : Int} {a b : α}
    (ha : t.get? i = some a) (hb : t.get? j = some b) (he : key a = key b) : a = b := by
  rw [← h i a ha, he, h j b hb, hb] at ha
  exact (Option.some.inj ha).symm

/-- A row that is inserted under its own number keeps a table keyed. -/
theorem Keyed.insert {key : α → Int} {t : Table α} (h : t.Keyed key) (a : α) :
    (t.insert (key a) a).Keyed key := by
  intro k b hk
  rw [get?_insert] at hk
  split at hk
  · obtain rfl := Option.some.inj hk
    assumption
  · exact h k b hk

/-- Changes that keep the numbers of rows keep a table keyed. -/
theorem Keyed.map {key : α → Int} {t : Table α} (h : t.Keyed key) {f : α → α}
    (hf : ∀ a, key (f a) = key a) : (t.map f).Keyed key := by
  intro k b hk
  rw [get?_map] at hk
  obtain ⟨a, ha, rfl⟩ := Option.map_eq_some_iff.1 hk
  rw [hf]
  exact h k a ha

/-- A part of a keyed table is keyed. -/
theorem Keyed.filter {key : α → Int} {t : Table α} (h : t.Keyed key) (p : α → Bool) :
    (t.filter p).Keyed key := by
  intro k b hk
  rw [get?_filter] at hk
  exact h k b (Option.eq_some_of_filter_eq_some hk)

/-! ### Staged changes, one by one -/

/-- A row that is staged stands in the table that is seen. -/
theorem overlay_insert_some (t : Table α) (c : Table (Option α)) (k : Int) (a : α) :
    t.overlay (c.insert k (some a)) = (t.overlay c).insert k a := by
  refine ext fun i => ?_
  rw [get?_overlay, get?_insert, get?_insert, get?_overlay]
  by_cases h : k = i
  · simp [h]
  · simp [h]

/-- A row whose end is staged is gone from the table that is seen. -/
theorem overlay_insert_none (t : Table α) (c : Table (Option α)) (k : Int) :
    t.overlay (c.insert k none) = (t.overlay c).erase k := by
  refine ext fun i => ?_
  rw [get?_overlay, get?_insert, get?_erase, get?_overlay]
  by_cases h : k = i
  · simp [h]
  · simp [h]

end Table
end LoanDesk
