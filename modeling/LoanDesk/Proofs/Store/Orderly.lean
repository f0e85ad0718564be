/-
# Orderly stores

A store is *orderly* where every lock is held by an open transaction and every open transaction has
a number that was given out. Beginning, calling, committing and dropping keep a store orderly: a call
stays within the frame of its transaction (`Store.perform_frame`), and the locks of a transaction go
when it ends.
-/

import LoanDesk.Proofs.Store.Frame

namespace LoanDesk

namespace Store

/-- The transaction is open. -/
def IsOpen (s : Store) (tx : TxId) : Prop := (s.opened.get? tx).isSome

instance (s : Store) (tx : TxId) : Decidable (s.IsOpen tx) :=
  inferInstanceAs (Decidable (_ = true))

/-- Locks are held by open transactions, and these have numbers that were given out. -/
structure Orderly (s : Store) : Prop where
  held : ∀ key tx, s.locks.holder? key = some tx → s.IsOpen tx
  numbered : ∀ tx, s.IsOpen tx → tx ≤ s.lastTx

/-- Beginning opens one transaction more. -/
theorem isOpen_begin (s : Store) (tx : TxId) :
    s.begin.2.IsOpen tx ↔ tx = s.lastTx + 1 ∨ s.IsOpen tx := by
  simp only [IsOpen, begin, Table.get?_insert]
  split
  · rename_i h
    simp [h]
  · rename_i h
    simp [Ne.symm h]

/-- Dropping closes the transaction and no other. -/
theorem isOpen_drop (s : Store) (tx i : TxId) : (s.drop tx).IsOpen i ↔ i ≠ tx ∧ s.IsOpen i := by
  simp only [IsOpen, drop, Table.get?_erase]
  split
  · rename_i h
    simp [h]
  · rename_i h
    simp [Ne.symm h]

/-- Committing closes the transaction and no other. -/
theorem isOpen_commit (s : Store) (tx i : TxId) : (s.commit tx).IsOpen i ↔ i ≠ tx ∧ s.IsOpen i :=
  isOpen_drop _ tx i

/-- An empty store is orderly. -/
theorem orderly_empty : Orderly empty where
  held key tx h := by cases key <;> simp [empty, Locks.none, Locks.holder?] at h
  numbered tx h := by simp [empty, IsOpen] at h

/-- Beginning keeps a store orderly. -/
theorem Orderly.begin {s : Store} (h : s.Orderly) : s.begin.2.Orderly where
  held key tx hk := (isOpen_begin s tx).2 (Or.inr (h.held key tx hk))
  numbered tx ht := by
    change tx ≤ s.lastTx + 1
    rcases (isOpen_begin s tx).1 ht with rfl | ht
    · exact Int.le_refl _
    · exact Int.le_add_one (h.numbered tx ht)

/-- Whatever stays within the frame of an open transaction keeps a store orderly. -/
theorem Orderly.frame {s t : Store} {tx : TxId} (h : s.Orderly) (ho : s.IsOpen tx)
    (hf : Frame tx s t) : t.Orderly where
  held key i hk := by
    by_cases hi : i = tx
    · exact hi ▸ hf.stays ho
    · rw [IsOpen, hf.others i hi]
      exact h.held key i ((hf.locks key i hi).1 hk)
  numbered i hk := by
    rw [hf.lastTx]
    by_cases hi : i = tx
    · exact hi ▸ h.numbered tx ho
    · rw [IsOpen, hf.others i hi] at hk
      exact h.numbered i hk

/-- A call of an open transaction keeps a store orderly. -/
theorem Orderly.perform {s : Store} {tx : TxId} (h : s.Orderly) (ho : s.IsOpen tx) (c : Call) :
    (s.perform tx c).2.Orderly :=
  h.frame ho (perform_frame s tx c)

/-- Dropping keeps a store orderly: the locks of the transaction go with it. -/
theorem Orderly.drop {s : Store} (h : s.Orderly) (tx : TxId) : (s.drop tx).Orderly where
  held key i hk := by
    rw [Store.drop, Locks.holder?_release] at hk
    obtain ⟨hi, hne⟩ := Option.filter_eq_some_iff.1 hk
    exact (isOpen_drop s tx i).2 ⟨by simpa using hne, h.held key i hi⟩
  numbered i hi := h.numbered i ((isOpen_drop s tx i).1 hi).2

/-- Committing keeps a store orderly: the locks of the transaction go with it. -/
theorem Orderly.commit {s : Store} (h : s.Orderly) (tx : TxId) : (s.commit tx).Orderly :=
  Orderly.drop (s := { s with rows := s.view tx }) ⟨h.held, h.numbered⟩ tx

end Store
end LoanDesk
