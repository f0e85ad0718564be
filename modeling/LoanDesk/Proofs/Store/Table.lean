/-
# Rows of tables, one by one

Which rows stand in a table after one of them was changed or put in, which numbers are taken
(`Table.Upto`), and what every row of a table satisfies (`Table.All`).
-/

import LoanDesk.Proofs.Store.Table.Picked

namespace LoanDesk
namespace Table

variable {α : Type}

/-! ### Rows one by one -/

/-- A row of a changed table comes from a row under the same number. -/
theorem get?_map_eq_some {t : Table α} {f : α → α} {k : Int} {b : α} :
    (t.map f).get? k = some b ↔ ∃ a, t.get? k = some a ∧ f a = b := by
  rw [get?_map, Option.map_eq_some_iff]

/-- Where one row is changed, the others are as they were. -/
theorem Keyed.get?_change_one {key : α → Int} {t : Table α} (h : t.Keyed key) {i : Int} {a : α}
    (ha : t.get? i = some a) {p : α → Bool} (hp : ∀ b, p b = true ↔ key b = i) {f : α → α} {j : Int}
    {b : α} : (t.map fun x => if p x then f x else x).get? j = some b ↔
      j = i ∧ b = f a ∨ j ≠ i ∧ t.get? j = some b := by
  rw [get?_map_eq_some]
  by_cases hj : j = i
  · subst hj
    have hpa : p a = true := (hp a).2 (h j a ha)
    constructor
    · rintro ⟨x, hx, rfl⟩
      rw [ha] at hx
      obtain rfl := Option.some.inj hx
      exact Or.inl ⟨rfl, if_pos hpa⟩
    · rintro (⟨-, rfl⟩ | ⟨hne, -⟩)
      · exact ⟨a, ha, if_pos hpa⟩
      · exact absurd rfl hne
  · have hkeep : ∀ x, t.get? j = some x → (if p x then f x else x) = x :=
      fun x hx => if_neg fun hpx => hj ((h j x hx).symm.trans ((hp x).1 hpx))
    constructor
    · rintro ⟨x, hx, rfl⟩
      rw [hkeep x hx]
      exact Or.inr ⟨hj, hx⟩
    · rintro (⟨he, -⟩ | ⟨-, hb⟩)
      · exact absurd he hj
      · exact ⟨b, hb, hkeep b hb⟩

/-- What is found after an insertion is the row that was inserted, or another that was there. -/
theorem get?_insert_eq_some {t : Table α} {k j : Int} {a b : α} :
    (t.insert k a).get? j = some b ↔ (k = j ∧ a = b) ∨ (k ≠ j ∧ t.get? j = some b) := by
  rw [get?_insert]
  split <;> simp_all

/-- What is found in a part of a table was found before and satisfies the condition. -/
theorem get?_filter_eq_some {t : Table α} {p : α → Bool} {k : Int} {a : α} :
    (t.filter p).get? k = some a ↔ t.get? k = some a ∧ p a = true := by
  rw [get?_filter, Option.filter_eq_some_iff]

/-! ### Numbers that are taken -/

/-- No row stands under a number greater than the last. -/
def Upto (t : Table α) (last : Int) : Prop := ∀ k a, t.get? k = some a → k ≤ last

section Upto

variable {t : Table α} {last n : Int}

/-- In an empty table no number is taken. -/
theorem upto_empty (last : Int) : (empty : Table α).Upto last := by
  intro k a h
  simp at h

/-- Numbers up to one bound are numbers up to a greater one. -/
theorem Upto.mono (h : t.Upto last) (hn : last ≤ n) : t.Upto n :=
  fun k a hk => Int.le_trans (h k a hk) hn

/-- Changing rows takes no number. -/
theorem Upto.map (h : t.Upto last) (f : α → α) : (t.map f).Upto last := by
  intro k b hk
  obtain ⟨a, ha, -⟩ := get?_map_eq_some.1 hk
  exact h k a ha

/-- A part of a table takes no number more. -/
theorem Upto.filter (h : t.Upto last) (p : α → Bool) : (t.filter p).Upto last :=
  fun k a hk => h k a (get?_filter_eq_some.1 hk).1

/-- A row under a number that was not given out takes that number. -/
theorem Upto.insert (h : t.Upto last) (hn : last ≤ n) (a : α) : (t.insert n a).Upto n := by
  intro k b hk
  rcases get?_insert_eq_some.1 hk with ⟨rfl, -⟩ | ⟨-, hk⟩
  · exact Int.le_refl _
  · exact Int.le_trans (h k b hk) hn

/-- A new number leaves the rows alone that are there. -/
theorem Upto.get?_insert (h : t.Upto last) (hn : last < n) {k : Int} {a b : α}
    (hk : t.get? k = some b) : (t.insert n a).get? k = some b := by
  refine get?_insert_eq_some.2 (Or.inr ⟨?_, hk⟩)
  rintro rfl
  exact absurd (h _ _ hk) (Int.not_le.2 hn)

end Upto

/-! ### Rows that all satisfy something -/

/-- Every row satisfies the condition. -/
def All (p : α → Prop) (t : Table α) : Prop := ∀ k a, t.get? k = some a → p a

section All

variable {p : α → Prop} {t : Table α}

/-- Every row of an empty table satisfies a condition. -/
theorem all_empty (p : α → Prop) : (empty : Table α).All p := by
  intro k a h
  simp at h

/-- Rows that are changed satisfy the condition if the change keeps it. -/
theorem All.map (h : t.All p) {f : α → α} (hf : ∀ a, p a → p (f a)) : (t.map f).All p := by
  intro k b hk
  obtain ⟨a, ha, rfl⟩ := get?_map_eq_some.1 hk
  exact hf a (h k a ha)

/-- The rows of a part satisfy what all rows satisfy. -/
theorem All.filter (h : t.All p) (q : α → Bool) : (t.filter q).All p :=
  fun k a hk => h k a (get?_filter_eq_some.1 hk).1

/-- A row that satisfies the condition may be put in. -/
theorem All.insert (h : t.All p) {a : α} (ha : p a) (n : Int) : (t.insert n a).All p := by
  intro k b hk
  rcases get?_insert_eq_some.1 hk with ⟨-, rfl⟩ | ⟨-, hk⟩
  · exact ha
  · exact h k b hk

/-- Rows that satisfy the condition may be put in one after another. -/
theorem All.foldl_insert {key : α → Int} : ∀ {as : List α} {t : Table α}, t.All p →
    (∀ a ∈ as, p a) → (as.foldl (fun t a => t.insert (key a) a) t).All p
  | [], _, h, _ => h
  | a :: _, _, h, has =>
    (h.insert (has a List.mem_cons_self) _).foldl_insert fun b hb => has b (List.mem_cons_of_mem _ hb)

end All

end Table
end LoanDesk
