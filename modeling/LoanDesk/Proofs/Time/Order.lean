/-
# Instants in their order

Instants are ordered linearly, by second and then by nanosecond.

Rows come with a time and a number, and are told apart by the number where the time is the same
(`Instant.notBefore`, `Instant.Newer`): this is the lexicographic order of the two. A walk over rows
that keeps the later of two finds the latest (`Instant.foldl_latest`).
-/

import LoanDesk.Time.Instant
import Mathlib.Data.Prod.Lex

namespace LoanDesk

instance : LinearOrder Instant where
  le_refl a := by
    rw [Instant.le_def]
    omega
  le_trans a b c h h' := by
    rw [Instant.le_def] at *
    omega
  le_antisymm a b h h' := by
    cases a
    cases b
    rw [Instant.le_def] at *
    simp only at *
    congr <;> omega
  le_total a b := by
    rw [Instant.le_def, Instant.le_def]
    omega
  lt_iff_le_not_ge a b := by
    rw [Instant.lt_def, Instant.le_def, Instant.le_def]
    omega
  toDecidableLE := inferInstance
  toDecidableEq := inferInstance
  toDecidableLT := inferInstance

namespace Instant

/-- Of two times with numbers the second is no earlier and, of one time, has no smaller number. -/
def notBefore (a b : Instant × Int) : Bool := a.1 < b.1 || (a.1 == b.1 && a.2 ≤ b.2)

/-- Of two times with numbers the first is later or, of one time, has the greater number. -/
def Newer (a b : Instant × Int) : Prop := b.1 < a.1 ∨ b.1 = a.1 ∧ b.2 < a.2

variable {a b c : Instant × Int}

/-- What is not before comes by its time or, at one time, by its number. -/
theorem notBefore_iff : notBefore a b ↔ a.1 < b.1 ∨ a.1 = b.1 ∧ a.2 ≤ b.2 := by
  simp [notBefore]

/-- This order is the lexicographic one. -/
theorem notBefore_iff_toLex : notBefore a b ↔ toLex a ≤ toLex b :=
  notBefore_iff.trans Prod.Lex.toLex_le_toLex.symm

/-- The strict order is the lexicographic one the other way round. -/
theorem newer_iff_toLex : Newer a b ↔ toLex b < toLex a :=
  Prod.Lex.toLex_lt_toLex.symm

/-- Nothing is before itself. -/
theorem notBefore_refl (a : Instant × Int) : notBefore a a :=
  notBefore_iff_toLex.2 le_rfl

/-- What is not before the second is not before the first. -/
theorem notBefore_trans (h : notBefore a b) (h' : notBefore b c) : notBefore a c :=
  notBefore_iff_toLex.2 ((notBefore_iff_toLex.1 h).trans (notBefore_iff_toLex.1 h'))

/-- Of two one is not before the other. -/
theorem notBefore_of_not (h : ¬notBefore a b) : notBefore b a :=
  notBefore_iff_toLex.2 ((le_total _ _).resolve_left (mt notBefore_iff_toLex.2 h))

/-- Neither of two is before the other only where they are the same. -/
theorem notBefore_antisymm (h : notBefore a b) (h' : notBefore b a) : a = b :=
  toLex.injective ((notBefore_iff_toLex.1 h).antisymm (notBefore_iff_toLex.1 h'))

/-- Where numbers differ, what is not before is newer. -/
theorem newer_of_notBefore (h : notBefore b a) (hne : a.2 ≠ b.2) : Newer a b :=
  newer_iff_toLex.2 (lt_of_le_of_ne (notBefore_iff_toLex.1 h) fun he =>
    hne (congrArg Prod.snd (toLex.injective he)).symm)

/-- Of two only one is newer. -/
theorem Newer.asymm (h : Newer a b) (h' : Newer b a) : False :=
  lt_asymm (newer_iff_toLex.1 h) (newer_iff_toLex.1 h')

section Walk

variable {α : Type} (key : α → Instant × Int) {f : Option α → α → Option α}

/-- A walk that keeps the later of two, on from one. -/
theorem foldl_latest_some
    (hf : ∀ b a, f (some b) a = if notBefore (key b) (key a) then some a else some b) :
    ∀ (as : List α) (b : α), ∃ a, as.foldl f (some b) = some a ∧ (a ∈ as ∨ a = b) ∧
      notBefore (key b) (key a) ∧ ∀ m ∈ as, notBefore (key m) (key a)
  | [], b => ⟨b, rfl, Or.inr rfl, notBefore_refl _, List.forall_mem_nil _⟩
  | x :: xs, b => by
    rw [List.foldl_cons, hf]
    split
    · rename_i hbx
      obtain ⟨a, ha, hmem, hx, hxs⟩ := foldl_latest_some hf xs x
      refine ⟨a, ha, Or.inl ?_, notBefore_trans hbx hx, List.forall_mem_cons.2 ⟨hx, hxs⟩⟩
      rcases hmem with hmem | rfl
      · exact List.mem_cons_of_mem _ hmem
      · exact List.mem_cons_self
    · rename_i hbx
      obtain ⟨a, ha, hmem, hb, hxs⟩ := foldl_latest_some hf xs b
      exact ⟨a, ha, hmem.imp_left (List.mem_cons_of_mem _), hb,
        List.forall_mem_cons.2 ⟨notBefore_trans (notBefore_of_not hbx) hb, hxs⟩⟩

/-- **A walk that keeps the later of two finds the latest.** -/
theorem foldl_latest (hnone : ∀ a, f none a = some a)
    (hf : ∀ b a, f (some b) a = if notBefore (key b) (key a) then some a else some b)
    {as : List α} (h : as ≠ []) :
    ∃ a ∈ as, as.foldl f none = some a ∧ ∀ m ∈ as, notBefore (key m) (key a) := by
  cases as with
  | nil => exact absurd rfl h
  | cons x xs =>
    obtain ⟨a, ha, hmem, hx, hxs⟩ := foldl_latest_some key hf xs x
    exact ⟨a, List.mem_cons.2 hmem.symm, by rw [List.foldl_cons, hnone, ha],
      List.forall_mem_cons.2 ⟨hx, hxs⟩⟩

end Walk
end Instant
end LoanDesk
