/-
# Digits read back

A reader is followed step by step, one way to take it apart (`of_bind`) and one to put it together
(`bind_of`).

What is written in digits is worth what was written (`spells_toDigits`), also with zeros in front
(`spells_padded`), and a reader of digits finds them in front of whatever follows
(`Spells.takeDigits`).

A number that is below `b ^ width` is written in exactly `width` digits of base `b`
(`length_padZeros`), so a reader that counts digits stops where they end.
-/

import LoanDesk.Text.Digits
import Mathlib.Algebra.Group.Nat.Defs

namespace LoanDesk

/-! ### Readers

A reader takes one step after another and fails where one of them does. -/

/-- What a reader gives, it gives after its first step. -/
theorem of_bind {α β : Type} {m : Option α} {f : α → Option β} {b : β} {p : Prop}
    (h : (m >>= f) = some b) (hp : ∀ a, m = some a → f a = some b → p) : p := by
  obtain ⟨a, ha, hb⟩ := Option.bind_eq_some_iff.1 h
  exact hp a ha hb

/-- Two steps of reading succeed if the first does and the second does on its result. -/
theorem bind_of {α β : Type} {m : Option α} {f : α → Option β} {a : α} {b : β} (ha : m = some a)
    (hb : f a = some b) : (m >>= f) = some b :=
  Option.bind_eq_some_iff.2 ⟨a, ha, hb⟩

/-- A list is read item by item where every item is read from what it is written as. -/
theorem mapM_written {α β : Type} {write : α → β} {read : β → Option α} {as : List α}
    (h : ∀ a ∈ as, read (write a) = some a) : (as.map write).mapM read = some as := by
  induction as with
  | nil => rfl
  | cons a as ih =>
    obtain ⟨ha, has⟩ := List.forall_mem_cons.1 h
    rw [List.map_cons, List.mapM_cons, ha, ih has]
    rfl

namespace Text

/-! ### What digits are worth -/

/-- Digits that are read on from a number count it as many places further up. -/
theorem foldl_value (b m : Nat) (ds : List Nat) :
    ds.foldl (fun n d => n * b + d) m = m * b ^ ds.length + value b ds := by
  unfold value
  induction ds generalizing m with
  | nil => simp
  | cons d ds ih =>
    rw [List.foldl_cons, List.foldl_cons, ih, ih (0 * b + d), List.length_cons, Nat.pow_succ]
    grind

/-- The digits in front count as many places further up as there are digits behind. -/
theorem value_append (b : Nat) (ds es : List Nat) :
    value b (ds ++ es) = value b ds * b ^ es.length + value b es := by
  rw [value, List.foldl_append, foldl_value]
  rfl

/-- Zeros are worth nothing. -/
theorem value_replicate_zero (b k : Nat) : value b (List.replicate k 0) = 0 := by
  induction k with
  | zero => rfl
  | succ k ih => rw [List.replicate_succ', value_append, ih]; simp [value]

/-- Digits are worth less than one more place. -/
theorem value_lt {b : Nat} {ds : List Nat} (h : ∀ d ∈ ds, d < b) : value b ds < b ^ ds.length := by
  induction ds with
  | nil => exact Nat.one_pos
  | cons d ds ih =>
    obtain ⟨hd, hds⟩ := List.forall_mem_cons.1 h
    have hle : (d + 1) * b ^ ds.length ≤ b * b ^ ds.length := Nat.mul_le_mul_right _ hd
    have hlt := ih hds
    rw [value, List.foldl_cons, foldl_value, Nat.zero_mul, Nat.zero_add, List.length_cons,
      Nat.pow_succ']
    grind

/-- The digits that are taken stand for less than ten. -/
theorem takeDigits_lt (cs : List Char) : ∀ d ∈ (takeDigits digit? cs).1, d < 10 := by
  induction cs with
  | nil => exact List.forall_mem_nil _
  | cons c cs ih =>
    rw [takeDigits]
    split
    · rename_i hd
      exact List.forall_mem_cons.2 ⟨digit?_lt hd, ih⟩
    · exact List.forall_mem_nil _

/-! ### Digits that were written -/

/-- The characters are digits of base `b` that are worth `n`. -/
def Spells (b n : Nat) (cs : List Char) : Prop :=
  ∃ ds : List Nat, cs = ds.map Nat.digitChar ∧ (∀ d ∈ ds, d < b) ∧ value b ds = n

/-- The digits of a number are worth it. -/
theorem spells_toDigits {b : Nat} (hb : 1 < b) (n : Nat) : Spells b n (Nat.toDigits b n) := by
  induction n using Nat.strongRecOn with
  | ind n ih =>
    rw [Nat.toDigits_eq_if hb]
    split
    · rename_i hn
      exact ⟨[n], rfl, by simpa using hn, by simp [value]⟩
    · rename_i hn
      obtain ⟨ds, hcs, hds, hvalue⟩ := ih (n / b) (Nat.div_lt_self (by omega) hb)
      refine ⟨ds ++ [n % b], by simp [hcs], fun d hd => ?_, ?_⟩
      · rcases List.mem_append.1 hd with hd | hd
        · exact hds d hd
        · rw [List.mem_singleton.1 hd]
          exact Nat.mod_lt n (by omega)
      · rw [value_append, hvalue]
        simpa [value] using Nat.div_add_mod' n b

/-- Digits of a number with zeros in front are worth it. -/
theorem spells_padZeros {b n : Nat} (hb : 1 < b) (width : Nat) :
    Spells b n (padZeros width (Nat.toDigits b n)) := by
  obtain ⟨ds, hcs, hds, hvalue⟩ := spells_toDigits hb n
  refine ⟨List.replicate (width - (Nat.toDigits b n).length) 0 ++ ds, ?_, fun d hd => ?_, ?_⟩
  · rw [padZeros, List.map_append, List.map_replicate, ← hcs]
    rfl
  · rcases List.mem_append.1 hd with hd | hd
    · rw [List.eq_of_mem_replicate hd]
      omega
    · exact hds d hd
  · rw [value_append, value_replicate_zero, hvalue, Nat.zero_mul, Nat.zero_add]

/-- A number that is written to a width is worth itself. -/
theorem spells_padded (width n : Nat) : Spells 10 n (padded width n) :=
  spells_padZeros (by decide) width

/-- A number that fits the width takes up just the width. -/
theorem length_padZeros {b n width : Nat} (hb : 1 < b) (hw : 0 < width) (hn : n < b ^ width) :
    (padZeros width (Nat.toDigits b n)).length = width := by
  have hle : (Nat.toDigits b n).length ≤ width := (Nat.length_toDigits_le_iff hb hw).2 hn
  rw [padZeros, List.length_append, List.length_replicate]
  omega

/-- A number that fits the width takes up just the width, in base ten. -/
theorem length_padded {n width : Nat} (hw : 0 < width) (hn : n < 10 ^ width) :
    (padded width n).length = width := length_padZeros (by decide) hw hn

/-- A number takes up the width at least. -/
theorem le_length_padded (width n : Nat) : width ≤ (padded width n).length := by
  rw [padded, padZeros, List.length_append, List.length_replicate]
  omega

/-! ### Reading them -/

/-- A decimal digit is read as what it was written for. -/
theorem digit?_digitChar : ∀ d < 10, digit? d.digitChar = some d := by decide

/-- A hexadecimal digit is read as what it was written for. -/
theorem hexDigit?_digitChar : ∀ d < 16, hexDigit? d.digitChar = some d := by decide

/-- Digits are found in front of what begins with none. -/
theorem Spells.takeDigits {n : Nat} {cs rest : List Char} (h : Spells 10 n cs)
    (hr : takeDigits digit? rest = ([], rest)) :
    ∃ ds, Text.takeDigits digit? (cs ++ rest) = (ds, rest) ∧ value 10 ds = n ∧
      ds.length = cs.length := by
  obtain ⟨ds, rfl, hds, hvalue⟩ := h
  refine ⟨ds, ?_, hvalue, (List.length_map _).symm⟩
  clear hvalue
  induction ds with
  | nil => exact hr
  | cons d ds ih =>
    obtain ⟨hd, hds⟩ := List.forall_mem_cons.1 hds
    rw [List.map_cons, List.cons_append, Text.takeDigits, digit?_digitChar d hd, ih hds]

/-- The first of the characters of a number is a digit. -/
theorem Spells.cons {b n : Nat} {cs : List Char} (h : Spells b n cs) (hcs : cs ≠ []) :
    ∃ d < b, ∃ rest, cs = d.digitChar :: rest := by
  obtain ⟨ds, rfl, hds, -⟩ := h
  cases ds with
  | nil => exact absurd rfl hcs
  | cons d ds => exact ⟨d, hds d List.mem_cons_self, _, rfl⟩

end Text
end LoanDesk
