/-
# Tables

`store/memory`: its maps by number, and `merged` as `overlay`.

Rows under whole numbers, in ascending order, at most one under each. Tables are equal as soon as
they hold the same rows, because the order leaves no choice.

`overlay` puts changes over a table: a row to be stored, or none where a row is to go.
`get?_insert`, `get?_erase` and `get?_overlay` say what is found afterwards.
-/

namespace LoanDesk

/-- Rows by number, in ascending order. -/
structure Table (α : Type) where
  rows : List (Int × α)
  sorted : rows.Pairwise fun a b => a.1 < b.1

namespace Table

variable {α : Type}

/-- No rows. -/
def empty : Table α := ⟨[], .nil⟩

instance : Inhabited (Table α) := ⟨empty⟩

/-- The row under a number in a list of rows. -/
def find? (id : Int) : List (Int × α) → Option α
  | [] => none
  | (i, a) :: rest => if i = id then some a else find? id rest

/-- A list of rows with a row put under a number. -/
def put (id : Int) (a : α) : List (Int × α) → List (Int × α)
  | [] => [(id, a)]
  | (i, b) :: rest =>
    if id < i then (id, a) :: (i, b) :: rest
    else if id = i then (id, a) :: rest
    else (i, b) :: put id a rest

/-- Numbers stay above a bound that the new number is above of as well. -/
theorem put_bound {id low : Int} {a : α} {rows : List (Int × α)} (h : low < id)
    (hr : ∀ x ∈ rows, low < x.1) : ∀ x ∈ put id a rows, low < x.1 := by
  induction rows with
  | nil => simpa [put] using h
  | cons r rest ih =>
    intro x hx
    unfold put at hx
    split at hx
    · rcases List.mem_cons.1 hx with rfl | hx
      · exact h
      · exact hr x hx
    · split at hx
      · rcases List.mem_cons.1 hx with rfl | hx
        · exact h
        · exact hr x (List.mem_cons_of_mem _ hx)
      · rcases List.mem_cons.1 hx with rfl | hx
        · exact hr _ List.mem_cons_self
        · exact ih (fun y hy => hr y (List.mem_cons_of_mem _ hy)) x hx

/-- A row is put in where its number belongs. -/
theorem put_sorted {id : Int} {a : α} {rows : List (Int × α)}
    (h : rows.Pairwise fun a b => a.1 < b.1) :
    (put id a rows).Pairwise fun a b => a.1 < b.1 := by
  induction rows with
  | nil => simp [put]
  | cons r rest ih =>
    obtain ⟨i, b⟩ := r
    have hr := List.pairwise_cons.1 h
    unfold put
    split
    · rename_i hlt
      refine List.pairwise_cons.2 ⟨fun x hx => ?_, h⟩
      rcases List.mem_cons.1 hx with rfl | hx
      · exact hlt
      · exact Int.lt_trans hlt (hr.1 x hx)
    · split
      · rename_i heq
        subst heq
        exact List.pairwise_cons.2 ⟨hr.1, hr.2⟩
      · exact List.pairwise_cons.2 ⟨put_bound (by omega) hr.1, ih hr.2⟩

/-- The row under a number. -/
def get? (t : Table α) (id : Int) : Option α := find? id t.rows

/-- The table with a row under a number, in place of the one that stood there. -/
def insert (t : Table α) (id : Int) (a : α) : Table α := ⟨put id a t.rows, put_sorted t.sorted⟩

/-- The table without the row under a number. -/
def erase (t : Table α) (id : Int) : Table α :=
  ⟨t.rows.filter fun r => r.1 != id, t.sorted.sublist List.filter_sublist⟩

/-- The rows that satisfy a condition. -/
def filter (t : Table α) (p : α → Bool) : Table α :=
  ⟨t.rows.filter fun r => p r.2, t.sorted.sublist List.filter_sublist⟩

/-- The rows in ascending order of their numbers. -/
def values (t : Table α) : List α := t.rows.map (·.2)

/-- How many rows there are. -/
def size (t : Table α) : Nat := t.rows.length

/-- A row is put in its place, or the row there is removed. -/
def change (t : Table α) (id : Int) : Option α → Table α
  | some a => t.insert id a
  | none => t.erase id

/-- A table with changes over it. -/
def overlay (t : Table α) (changes : Table (Option α)) : Table α :=
  changes.rows.foldl (fun t c => t.change c.1 c.2) t

/-- The row that was put in is found under its number, and the others as before. -/
theorem find?_put (id k : Int) (a : α) (rows : List (Int × α))
    (h : rows.Pairwise fun a b => a.1 < b.1) :
    find? k (put id a rows) = if id = k then some a else find? k rows := by
  induction rows with
  | nil => simp [put, find?]
  | cons r rest ih =>
    obtain ⟨i, b⟩ := r
    have hr := List.pairwise_cons.1 h
    unfold put
    split
    · simp [find?]
    · split
      · rename_i heq
        subst heq
        simp only [find?]
        split <;> rfl
      · rename_i h₁ h₂
        simp only [find?, ih hr.2]
        split
        · rename_i hik
          rw [if_neg (by omega)]
        · rfl

/-- Nothing is found in an empty table. -/
@[simp] theorem get?_empty (k : Int) : (empty : Table α).get? k = none := rfl

/-- The row that was inserted is found under its number, and the others as before. -/
theorem get?_insert (t : Table α) (id k : Int) (a : α) :
    (t.insert id a).get? k = if id = k then some a else t.get? k :=
  find?_put id k a t.rows t.sorted

/-- Rows without the one under a number are found as before, but for that number. -/
theorem find?_filter (id k : Int) (rows : List (Int × α)) :
    find? k (rows.filter fun r => r.1 != id) = if id = k then none else find? k rows := by
  induction rows with
  | nil => simp [find?]
  | cons r rest ih =>
    obtain ⟨i, b⟩ := r
    rw [List.filter_cons]
    by_cases h : i = id
    · subst h
      simp only [bne_self_eq_false, Bool.false_eq_true, if_false, ih, find?]
      split <;> rfl
    · rw [if_pos (by simpa using h)]
      simp only [find?, ih]
      by_cases hk : i = k
      · rw [if_pos hk, if_neg (by omega), if_pos hk]
      · simp [hk]

/-- Nothing is found under the number that was erased, and the others are found as before. -/
theorem get?_erase (t : Table α) (id k : Int) :
    (t.erase id).get? k = if id = k then none else t.get? k :=
  find?_filter id k t.rows

/-- What is found under the number that was changed is what it was changed to. -/
theorem get?_change (t : Table α) (id k : Int) (a : Option α) :
    (t.change id a).get? k = if id = k then a else t.get? k := by
  cases a
  · exact get?_erase t id k
  · exact get?_insert t id k _

/-- After changes under numbers in order, what is found is the change under the number, or else what
was there. -/
theorem get?_foldl_change (changes : List (Int × Option α))
    (h : changes.Pairwise fun a b => a.1 < b.1) (t : Table α) (k : Int) :
    (changes.foldl (fun t c => t.change c.1 c.2) t).get? k =
      match find? k changes with
      | some a => a
      | none => t.get? k := by
  induction changes generalizing t with
  | nil => rfl
  | cons c rest ih =>
    obtain ⟨i, a⟩ := c
    have hc := List.pairwise_cons.1 h
    simp only [List.foldl_cons, ih hc.2, find?, get?_change]
    by_cases hk : i = k
    · subst hk
      simp only [if_true]
      have : find? i rest = none := by
        have hlt : ∀ r ∈ rest, i < r.1 := hc.1
        clear ih hc h
        induction rest with
        | nil => rfl
        | cons r rest ih =>
          have := hlt r List.mem_cons_self
          simp only [find?]
          rw [if_neg (by omega)]
          exact ih fun r hr => hlt r (List.mem_cons_of_mem _ hr)
      simp [this]
    · simp [hk]

/-- What is found under a number is what the changes say of it, and the row of the table where they
say nothing. -/
theorem get?_overlay (t : Table α) (changes : Table (Option α)) (k : Int) :
    (t.overlay changes).get? k =
      match changes.get? k with
      | some a => a
      | none => t.get? k :=
  get?_foldl_change changes.rows changes.sorted t k

end Table
end LoanDesk
