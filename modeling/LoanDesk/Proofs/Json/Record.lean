/-
# Values that are read where they are written

A value lasts if it is read from the JSON that it is written as (`Lasts`). A type is steady if
whatever is read of it lasts (`Steady`): not every value of a type need last, since some cannot be
read at all, such as a whole number of more than 64 bits.

A record that is written as an object with distinct names holds its fields when it is read
(`Json.record?_obj`), so it is read again field by field (`lasts_of_record`).
-/

import LoanDesk.Proofs.Number.Decimal
import LoanDesk.Proofs.Text.Uuid
import LoanDesk.Proofs.Time.Instant
import LoanDesk.Vocabulary

namespace LoanDesk

/-- The value is read from what it is written as. -/
def Lasts {α : Type} [Coded α] (a : α) : Prop := ofJson? (toJson a) = some a

/-- What is read of the type lasts. -/
class Steady (α : Type) [Coded α] : Prop where
  lasts : ∀ {j : Json} {a : α}, ofJson? j = some a → Lasts a

/-! ### Values without fields -/

instance : Steady Json := ⟨fun _ => rfl⟩

instance : Steady String := ⟨fun _ => rfl⟩

instance : Steady Bool := ⟨fun _ => rfl⟩

/-- A value is read as an integer within bounds if it is one. -/
theorem Json.intWithin?_eq_some {low high n : Int} {j : Json} :
    j.intWithin? low high = some n ↔ j = .int n ∧ low ≤ n ∧ n ≤ high := by
  unfold intWithin?
  split
  · simp only [Bool.and_eq_true, decide_eq_true_eq, Option.ite_none_right_eq_some,
      Option.some.injEq, Json.int.injEq]
    grind
  · rename_i h
    exact ⟨nofun, fun ⟨hj, _⟩ => absurd hj (h n)⟩

/-- A whole number between bounds is read again between them. -/
theorem Json.intWithin?_int {low high n : Int} {j : Json} (h : j.intWithin? low high = some n) :
    (Json.int n).intWithin? low high = some n :=
  intWithin?_eq_some.2 ⟨rfl, (intWithin?_eq_some.1 h).2⟩

instance : Steady Int := ⟨Json.intWithin?_int⟩

instance : Steady Nat where
  lasts {j n} h := by
    obtain ⟨i, hi, rfl⟩ := Option.map_eq_some_iff.1 h
    have hnat : (i.toNat : Int) = i := Int.toNat_of_nonneg (Json.intWithin?_eq_some.1 hi).2.1
    change ((Json.int i.toNat).intWithin? 0 _).map Int.toNat = _
    rw [hnat, Json.intWithin?_int hi]
    rfl

instance : Steady Decimal := ⟨fun _ => Decimal.ofText?_text _⟩

instance : Steady Instant where
  lasts {j t} h := by
    cases j with
    | str s => exact Instant.ofText?_text (Instant.readable_of_ofText? h)
    | _ => cases h

instance : Steady Uuid := ⟨fun _ => Uuid.ofText?_text _⟩

/-- A word is read as what it was written for. -/
theorem Vocabulary.lasts {α : Type} [Vocabulary α] (a : α) : Lasts a := Vocabulary.find?_word a

instance (priority := low) {α : Type} [Vocabulary α] : Steady α := ⟨fun _ => Vocabulary.lasts _⟩

/-! ### What may be left out -/

section Option

variable {α : Type} [Coded α]

/-- What is not there is read as not there. -/
theorem lasts_none : Lasts (none : Option α) := rfl

/-- A value that is there is read as such, or not at all. -/
theorem ofJson?_of_ne_null {j : Json} (hj : j ≠ .null) :
    (ofJson? j : Option (Option α)) = (ofJson? j).map Option.some := by
  cases j with
  | null => exact absurd rfl hj
  | _ => rfl

/-- What is written, and not as `null`, is no less there than it was. -/
theorem Lasts.some {a : α} (h : Lasts a) (hnull : toJson a ≠ .null) : Lasts (some a) := by
  refine (ofJson?_of_ne_null hnull).trans ?_
  rw [show ofJson? (toJson a) = Option.some a from h]
  rfl

/-- Values that are never written as `null` may be left out. -/
theorem Steady.option [Steady α] (hnull : ∀ a : α, toJson a ≠ .null) : Steady (Option α) where
  lasts {j a?} h := by
    by_cases hj : j = .null
    · subst hj
      obtain rfl := Option.some.inj h
      exact lasts_none
    · rw [ofJson?_of_ne_null hj] at h
      obtain ⟨a, ha, rfl⟩ := Option.map_eq_some_iff.1 h
      exact (Steady.lasts ha).some (hnull a)

end Option

instance : Steady (Option Int) := .option nofun
instance : Steady (Option String) := .option nofun
instance : Steady (Option Decimal) := .option nofun
instance : Steady (Option Instant) := .option nofun
instance : Steady (Option Uuid) := .option nofun

/-! ### Lists -/

/-- A list lasts if each of its members does. -/
theorem lasts_list {α : Type} [Coded α] {as : List α} (h : ∀ a ∈ as, Lasts a) : Lasts as :=
  mapM_written h

instance {α : Type} [Coded α] [Steady α] : Steady (List α) where
  lasts {j as} h := by
    cases j with
    | arr items =>
      refine lasts_list ?_
      change items.mapM ofJson? = some as at h
      induction items generalizing as with
      | nil =>
        cases h
        exact List.forall_mem_nil _
      | cons item items ih =>
        rw [List.mapM_cons] at h
        refine of_bind h fun a ha h => of_bind h fun as' has h => ?_
        obtain rfl := Option.some.inj h
        exact List.forall_mem_cons.2 ⟨Steady.lasts ha, ih has⟩
    | _ => cases h

/-! ### Objects that were written -/

namespace Record

/-- The record that the fields of an object make. -/
def of (fields : List (String × Json)) : Record := fun name =>
  match fields.lookup name with
  | some j => .value j
  | none => .missing

/-- A field stands in the record by its name. -/
theorem of_eq_value {fields : List (String × Json)} (h : (fields.map (·.1)).Nodup) {name : String}
    {j : Json} (hf : (name, j) ∈ fields) : of fields name = .value j := by
  have hlookup : fields.lookup name = some j := by
    induction fields with
    | nil => cases hf
    | cons f fields ih =>
      obtain ⟨hnot, hfields⟩ := List.nodup_cons.1 h
      rw [List.lookup_cons]
      rcases List.mem_cons.1 hf with rfl | hf
      · rw [beq_self_eq_true]
      · have hne : (name == f.1) = false := by
          refine beq_false_of_ne fun he => hnot ?_
          exact List.mem_map.2 ⟨_, hf, he⟩
        rw [hne]
        exact ih hfields hf
  rw [of, hlookup]

end Record

namespace Json

variable {fields : List (String × Json)}

/-- Where no name comes twice, the last field of a name is the field of that name. -/
theorem lastField?_eq_lookup (h : (fields.map (·.1)).Nodup) (name : String) :
    lastField? fields name = fields.lookup name := by
  unfold lastField?
  induction fields with
  | nil => rfl
  | cons f fields ih =>
    obtain ⟨hf, hfields⟩ := List.nodup_cons.1 h
    rw [List.reverse_cons, List.find?_append, List.lookup_cons, ← ih hfields]
    by_cases hname : f.1 = name
    · have hnone : fields.reverse.find? (fun f => f.1 == name) = none := by
        rw [List.find?_eq_none]
        intro g hg
        rw [beq_iff_eq]
        intro he
        exact hf (List.mem_map.2 ⟨g, List.mem_reverse.1 hg, he.trans hname.symm⟩)
      simp [hname, hnone]
    · have hname' : (name == f.1) = false := beq_false_of_ne (Ne.symm hname)
      simp [hname, hname']

/-- An object is read as the record that its fields make. -/
theorem object?_obj (h : (fields.map (·.1)).Nodup) (names : List String) :
    (Json.obj fields).object? names = some (Record.of fields) := by
  have hcount (n : String) : (fields.filter fun f => f.1 == n).length ≤ 1 := by
    have hle := List.nodup_iff_count.1 h n
    rwa [List.count, List.countP_map, List.countP_eq_length_filter] at hle
  have hall : (names.all fun n => (fields.filter fun f => f.1 == n).length ≤ 1) = true :=
    List.all_eq_true.2 fun n _ => decide_eq_true (hcount n)
  rw [object?, if_pos hall]
  simp only [lastField?_eq_lookup h]
  rfl

/-- An object is read as the record that its fields make, also where a list might have stood. -/
theorem record?_obj (h : (fields.map (·.1)).Nodup) (names : List String) :
    (Json.obj fields).record? names = some (Record.of fields) := by
  rw [record?, object?_obj h]
  rfl

end Json

/-- A value that is written as an object and read from one lasts if it is read from its fields. -/
theorem lasts_of_object {α : Type} [Coded α] {a : α} {fields : List (String × Json)}
    {names : List String} {read : Record → Option α} (hwrite : toJson a = .obj fields)
    (hread : (ofJson? (.obj fields) : Option α) = ((Json.obj fields).object? names).bind read)
    (hnodup : (fields.map (·.1)).Nodup) (h : read (Record.of fields) = some a) : Lasts a := by
  rw [Lasts, hwrite, hread, Json.object?_obj hnodup]
  exact h

/-- A value that is written as an object with the names that it is read by lasts if it is read from
these fields. -/
theorem lasts_of_record {α : Type} [Coded α] {a : α} {fields : List (String × Json)}
    {names : List String} {read : Record → Option α} (hwrite : toJson a = .obj fields)
    (hread : ∀ j, (ofJson? j : Option α) = (j.record? names).bind read)
    (hnames : fields.map (·.1) = names) (hnodup : names.Nodup)
    (h : read (Record.of fields) = some a) : Lasts a := by
  rw [Lasts, hwrite, hread, Json.record?_obj (hnames ▸ hnodup)]
  exact h

/-! ### Fields that are read again

In `r` a field was read, in `r'` it stands as it is written. -/

namespace Record

section Fields

variable {α β : Type} [Coded α] {r r' : Record} {name : String} {a : α} {a? : Option α}
  {f : α → Option β} {b : β}

/-- What a required field was read as lasts. -/
theorem lasts_required [Steady α] (h : r.required name = some a) : Lasts a := by
  unfold required at h
  split at h
  · exact Steady.lasts h
  · cases h

/-- What an optional field was read as lasts. -/
theorem lasts_optional [Steady (Option α)] (h : r.optional name = some a?) : Lasts a? := by
  unfold optional at h
  split at h
  · exact Steady.lasts h
  · exact Option.some.inj h ▸ lasts_none
  · cases h

/-- What a field with a default was read as lasts, if the default does. -/
theorem lasts_defaulted [Steady α] {default : α} (hd : Lasts default)
    (h : r.defaulted name default = some a) : Lasts a := by
  unfold defaulted at h
  split at h
  · exact Steady.lasts h
  · exact Option.some.inj h ▸ hd

/-- What lasts is read where it stands. -/
theorem bind_lasts (ha : Lasts a) (h' : r' name = .value (toJson a)) (hf : f a = some b) :
    (r'.required name >>= f) = some b := by
  refine bind_of ?_ hf
  rw [required, h']
  exact ha

/-- A required field that was written is read, before what follows. -/
theorem bind_required [Steady α] (h : r.required name = some a) (h' : r' name = .value (toJson a))
    (hf : f a = some b) : (r'.required name >>= f) = some b :=
  bind_lasts (lasts_required h) h' hf

/-- An optional field that was written is read, before what follows. -/
theorem bind_optional [Steady (Option α)] {f : Option α → Option β} (h : r.optional name = some a?)
    (h' : r' name = .value (toJson a?)) (hf : f a? = some b) :
    (r'.optional name >>= f) = some b := by
  refine bind_of ?_ hf
  rw [optional, h']
  exact lasts_optional h

/-- A field with a default that was written is read, before what follows. -/
theorem bind_defaulted [Steady α] {default : α} (hd : Lasts default)
    (h : r.defaulted name default = some a) (h' : r' name = .value (toJson a))
    (hf : f a = some b) : (r'.defaulted name default >>= f) = some b := by
  refine bind_of ?_ hf
  rw [defaulted, h']
  exact lasts_defaulted hd h

end Fields

end Record
end LoanDesk
