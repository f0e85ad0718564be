/-
# Numbers that were given out

In a store that comes about nothing is stored, staged or locked under a number that was not given out
(`Store.Reached.numbered`), since that is what each move keeps (`Store.moves_act`).
-/

import LoanDesk.Proofs.Store.Moves.Calls

namespace LoanDesk
namespace Store

/-! ### Stores that come about -/

/-- In an empty store no number is used. -/
theorem numbered_empty : Numbered .empty where
  stored key x hx := by cases key <;> simp [Rows.row?, empty, Rows.empty] at hx
  staged tx key x hx := by
    have hnone : empty.changes tx = .none := by simp [changes, empty]
    rw [hnone, Changes.row?_none] at hx
    cases hx
  signed id k hk := by simp [empty, Rows.empty] at hk
  signing tx id k hk := by simp [changes, empty, Changes.none] at hk
  held key tx hk := by cases key <;> simp [empty, Locks.none, Locks.holder?] at hk

/-- A transaction that begins has staged nothing, and the others what they had. -/
theorem changes_begin (s : Store) (tx : TxId) :
    s.begin.2.changes tx = if tx = s.lastTx + 1 then .none else s.changes tx := by
  simp only [changes, begin, Table.get?_insert, eq_comm (a := s.lastTx + 1)]
  split <;> rfl

/-- A transaction that is dropped has nothing staged any more, and the others what they had. -/
theorem changes_drop (s : Store) (tx i : TxId) :
    (s.drop tx).changes i = if i = tx then .none else s.changes i := by
  simp only [changes, drop, Table.get?_erase, eq_comm (a := tx)]
  split <;> rfl

namespace Numbered

variable {s : Store}

/-- What one transaction has staged is gone or as it was, for each transaction. -/
theorem of_changes (h : s.Numbered) {t : Store} (hrows : t.rows = s.rows)
    (hlast : t.lastId = s.lastId) (hc : ∀ tx, t.changes tx = .none ∨ t.changes tx = s.changes tx)
    (hl : ∀ key tx, t.locks.holder? key = some tx → s.locks.holder? key = some tx) :
    t.Numbered where
  stored key x hx := by
    rw [hlast]
    exact h.stored key x (hrows ▸ hx)
  staged tx key x hx := by
    rw [hlast]
    rcases hc tx with hc | hc
    · rw [hc, Changes.row?_none] at hx
      cases hx
    · exact h.staged tx key x (hc ▸ hx)
  signed id k hk := by
    rw [hlast]
    exact h.signed id k (hrows ▸ hk)
  signing tx id k hk := by
    rw [hlast]
    rcases hc tx with hc | hc
    · simp [hc, Changes.none] at hk
    · exact h.signing tx id k (hc ▸ hk)
  held key tx hk := by
    rw [hlast]
    exact h.held key tx (hl key tx hk)

/-- Beginning uses no number. -/
theorem begin (h : s.Numbered) : s.begin.2.Numbered := by
  refine h.of_changes rfl rfl (fun tx => ?_) fun _ _ hk => hk
  rw [changes_begin]
  split
  · exact Or.inl rfl
  · exact Or.inr rfl

/-- Dropping uses no number. -/
theorem drop (h : s.Numbered) (tx : TxId) : (s.drop tx).Numbered := by
  refine h.of_changes rfl rfl (fun i => ?_) fun key i hk => ?_
  · rw [changes_drop]
    split
    · exact Or.inl rfl
    · exact Or.inr rfl
  · rw [Store.drop, Locks.holder?_release] at hk
    exact (Option.filter_eq_some_iff.1 hk).1

/-- Committing stores what was staged, under numbers that were given out. -/
theorem commit (h : s.Numbered) (tx : TxId) : (s.commit tx).Numbered := by
  refine drop (s := { s with rows := s.view tx }) ?_ tx
  exact ⟨fun _ _ hx => h.seen hx, h.staged, fun _ _ hk => h.seen_contract hk, h.signing, h.held⟩

end Numbered

/-- A command of anybody uses only numbers that were given out. -/
theorem Does.numbered {s t : Store} (h : s.Numbered) {c : Command} {x : c.Answer}
    (hs : s.Does c x t) : t.Numbered := by
  cases c with
  | begin =>
    obtain ⟨-, rfl⟩ := hs
    exact h.begin
  | call tx c =>
    obtain rfl : t = (s.perform tx c).2 := congrArg Prod.snd hs
    exact (moves_act h c).numbered h
  | commit tx =>
    obtain ⟨-, rfl⟩ := hs
    exact h.commit tx
  | drop tx =>
    obtain rfl : t = s.drop tx := hs
    exact h.drop tx
  | deliver e =>
    obtain rfl : t = s := hs
    exact h

/-- **Nothing is stored, staged or locked under a number that was not given out.** -/
theorem Reached.numbered {s : Store} (h : s.Reached) : s.Numbered := by
  induction h with
  | empty => exact numbered_empty
  | step _ _ hs ih => exact hs.numbered ih

end Store
end LoanDesk
