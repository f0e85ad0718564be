/-
# Contracts for one line

A contract is refused where the transaction that asks for it sees one for the same line. It sees what
is stored and what it has staged itself, but not what others have staged, and no lock stands between
them. So two transactions that are open at the same time can each stage a contract for a line, and
both can commit.

That is the only way in which a line comes to two contracts (`Store.Reached.two_contracts`): a
contract keeps its line for good, and as long as it is not stored only the transaction that made it
has staged it, so that the second of two contracts for a line is made while the first is staged by
somebody else.
-/

import LoanDesk.Proofs.Store.Signing.Rivals

namespace LoanDesk
namespace Store

/-! ### Stores that come about -/

/-- In an empty store contracts are as they have to be. -/
theorem ruled_empty : Ruled .empty where
  kept tx i h := by simp [changes, empty, Changes.none] at h
  same := by
    rintro tx i l l' ⟨k, hk, -⟩
    simp [changes, empty, Changes.none] at hk
  own := by
    rintro tx tx' i l l' ⟨k, hk, -⟩
    simp [changes, empty, Changes.none] at hk

/-- What a transaction has staged comes to be stored when it commits. -/
theorem Ruled.commit {s : Store} (h : s.Ruled) (tx : TxId) :
    (s.commit tx).Ruled ∧ ∀ i line, (s.commit tx).Known i line → s.Known i line := by
  have hkeeps : ∀ {i line}, (s.commit tx).Keeps i line → s.Keeps i line ∨ s.Stages tx i line :=
    fun hk => h.sees_iff.1 hk
  have hchanges := changes_drop { s with rows := s.view tx } tx
  have hstages : ∀ {i j line}, (s.commit tx).Stages i j line → i ≠ tx ∧ s.Stages i j line := by
    rintro i j line ⟨k, hk, hline⟩
    rw [Store.commit, hchanges] at hk
    split at hk
    · simp [Changes.none] at hk
    · exact ⟨‹_›, k, hk, hline⟩
  have hnone : ∀ {i}, (s.commit tx).rows.contracts.get? i = none →
      s.rows.contracts.get? i = none := by
    intro i hi
    cases hget : s.rows.contracts.get? i with
    | none => rfl
    | some k =>
      have hkept : s.Keeps i k.line ∨ s.Stages tx i k.line := Or.inl ⟨k, hget, rfl⟩
      obtain ⟨k', hk', -⟩ := h.sees_iff.2 hkept
      rw [show (s.commit tx).rows = s.view tx from rfl, hk'] at hi
      cases hi
  refine ⟨⟨fun i j hgone => ?_, fun {i j l l'} hs hk => ?_, fun hs hs' hget =>
    h.own (hstages hs).2 (hstages hs').2 (hnone hget)⟩, fun i line hknown => ?_⟩
  · rw [Store.commit, hchanges] at hgone
    split at hgone
    · simp [Changes.none] at hgone
    · exact h.kept i j hgone
  · obtain ⟨hne, hs⟩ := hstages hs
    rcases hkeeps hk with hk | hs'
    · exact h.same hs hk
    · cases hget : s.rows.contracts.get? j with
      | none => exact absurd (h.own hs hs' hget) hne
      | some k =>
        have hk : s.Keeps j k.line := ⟨k, hget, rfl⟩
        exact (h.same hs hk).trans (h.same hs' hk).symm
  · rcases hknown with hk | ⟨i, hs⟩
    · exact (hkeeps hk).imp_right fun hs => ⟨tx, hs⟩
    · exact Or.inr ⟨i, (hstages hs).2⟩

/-- A command of anybody lets two contracts for a line come about only between rivals. -/
theorem Does.signing {s t : Store} (h : s.Ruled) (hn : s.Numbered) {c : Command} {x : c.Answer}
    (hs : s.Does c x t) : t.Ruled ∧ ∀ {i j line}, i ≠ j → t.Known i line → t.Known j line →
      s.Known i line ∧ s.Known j line ∨ t.Rivals i j line := by
  have hold : (t.Ruled ∧ ∀ i line, t.Known i line → s.Known i line) →
      t.Ruled ∧ ∀ {i j line}, i ≠ j → t.Known i line → t.Known j line →
        s.Known i line ∧ s.Known j line ∨ t.Rivals i j line :=
    fun ⟨hruled, hknown⟩ => ⟨hruled, fun _ hi hj => Or.inl ⟨hknown _ _ hi, hknown _ _ hj⟩⟩
  cases c with
  | begin =>
    obtain ⟨-, rfl⟩ := hs
    refine hold (h.of_staged rfl fun tx i => ?_)
    rw [changes_begin]
    split
    · exact Or.inl rfl
    · exact Or.inr rfl
  | call tx c =>
    obtain rfl : t = (s.perform tx c).2 := congrArg Prod.snd hs
    have hmoves : Moves tx s (s.perform tx c).2 := moves_act hn c
    have hsigning := hmoves.signing h hn
    exact ⟨hsigning.ruled, hsigning.known⟩
  | commit tx =>
    obtain ⟨-, rfl⟩ := hs
    exact hold (h.commit tx)
  | drop tx =>
    obtain rfl : t = s.drop tx := hs
    refine hold (h.of_staged rfl fun i j => ?_)
    rw [changes_drop]
    split
    · exact Or.inl rfl
    · exact Or.inr rfl
  | deliver e =>
    obtain rfl : t = s := hs
    exact hold ⟨h, fun _ _ hk => hk⟩

/-- Two contracts that are known for a line were rivals once. -/
theorem Reached.rivals {s : Store} (h : s.Reached) : s.Ruled ∧ ∀ {i j line}, i ≠ j →
    s.Known i line → s.Known j line → ∃ r : Store, r.Reached ∧ r.Leads s ∧ r.Rivals i j line := by
  induction h with
  | empty =>
    refine ⟨ruled_empty, fun {i j line} _ hi _ => ?_⟩
    rcases hi with ⟨k, hk, -⟩ | ⟨tx, k, hk, -⟩
    · simp [Store.empty, Rows.empty] at hk
    · simp [changes, Store.empty, Changes.none] at hk
  | step h hc hs ih =>
    obtain ⟨hruled, hknown⟩ := hs.signing ih.1 h.numbered
    refine ⟨hruled, fun hne hi hj => ?_⟩
    rcases hknown hne hi hj with ⟨hi, hj⟩ | hr
    · obtain ⟨r, hr, hleads, hrivals⟩ := ih.2 hne hi hj
      exact ⟨r, hr, hleads.tail ⟨_, _, hc, hs⟩, hrivals⟩
    · exact ⟨_, h.step hc hs, .refl, hr⟩

/-- Rivals that commit one after the other both come to be stored. -/
theorem Ruled.commit_rivals {s : Store} (h : s.Ruled) {tx tx' : TxId} {i j line : Int}
    (hne : tx ≠ tx') (hi : s.Signs tx i line) (hj : s.Signs tx' j line) :
    i ≠ j ∧ ((s.commit tx).commit tx').Keeps i line ∧ ((s.commit tx).commit tx').Keeps j line := by
  have hruled := (h.commit tx).1
  have hkept : (s.commit tx).Keeps i line := h.sees_iff.2 (Or.inr hi.1)
  have hstaged : (s.commit tx).Stages tx' j line := by
    obtain ⟨k, hk, hline⟩ := hj.1
    refine ⟨k, ?_, hline⟩
    rw [Store.commit, changes_drop, if_neg hne.symm]
    exact hk
  refine ⟨?_, hruled.sees_iff.2 (Or.inl hkept), hruled.sees_iff.2 (Or.inr hstaged)⟩
  rintro rfl
  exact hne (h.own hi.1 hj.1 hi.2)

/-- **How a line comes to two contracts.**  Whatever transactions do in whatever order, two stored
contracts are for the same line only if at some earlier time two open transactions had each staged
one of them as a new contract for the line. And where two open transactions have staged new contracts
for one line, nothing keeps them from committing one after the other, and both contracts are stored. -/
theorem Reached.two_contracts {s : Store} (h : s.Reached) :
    (∀ i j k k', s.rows.contracts.get? i = some k → s.rows.contracts.get? j = some k' →
      i ≠ j → k.line = k'.line →
      ∃ (r : Store) (tx tx' : TxId), r.Reached ∧ r.Leads s ∧ tx ≠ tx' ∧ r.IsOpen tx ∧
        r.IsOpen tx' ∧ r.Signs tx i k.line ∧ r.Signs tx' j k.line) ∧
    ∀ tx tx' i j line, tx ≠ tx' → s.Signs tx i line → s.Signs tx' j line →
      i ≠ j ∧ ((s.commit tx).commit tx').Keeps i line ∧
        ((s.commit tx).commit tx').Keeps j line := by
  obtain ⟨hruled, hrivals⟩ := h.rivals
  refine ⟨fun i j k k' hi hj hne hline => ?_, fun _ _ _ _ _ => hruled.commit_rivals⟩
  obtain ⟨r, hr, hleads, tx, tx', hother, hsigns, hsigns'⟩ :=
    hrivals hne (Or.inl ⟨k, hi, rfl⟩) (Or.inl ⟨k', hj, hline.symm⟩)
  exact ⟨r, tx, tx', hr, hleads, hother, hsigns.1.isOpen, hsigns'.1.isOpen, hsigns, hsigns'⟩

end Store

namespace Story

/-- A contract for line 5. -/
def deal : ContractDraft := ⟨1, 5, 7, "A1", 1, 10⟩

/-- Transactions 2 and 3 have each staged a contract for line 5. -/
def vying : Store :=
  ((stored.perform 2 (.createContract deal noon)).2.perform 3 (.createContract deal noon)).2

/-- Both have committed. -/
def doubled : Store := (vying.commit 2).commit 3

/-- The store with the two rivals comes about. -/
theorem reached_vying : vying.Reached := by
  have hfirst : Store.empty.begin.2.IsOpen 1 := by decide +kernel
  have hasked := Store.Reached.empty.begin.call hfirst (.createRequest wish noon)
  have hstored : stored.Reached := (hasked.commit 1).begin.begin
  have hdeal := hstored.call (show stored.IsOpen 2 by decide +kernel) (.createContract deal noon)
  exact hdeal.call (by decide +kernel) (.createContract deal noon)

/-- Contracts 2 and 3 are stored for line 5: transactions 2 and 3 had staged them side by side. -/
theorem two_contracts_doubled :
    ∃ k k', doubled.rows.contracts.get? 2 = some k ∧ doubled.rows.contracts.get? 3 = some k' ∧
      k.line = 5 ∧ k'.line = 5 ∧
      (∃ (r : Store) (tx tx' : TxId), r.Reached ∧ r.Leads doubled ∧ tx ≠ tx' ∧ r.IsOpen tx ∧
        r.IsOpen tx' ∧ r.Signs tx 2 5 ∧ r.Signs tx' 3 5) ∧
      doubled.Keeps 2 5 ∧ doubled.Keeps 3 5 := by
  have hreached : doubled.Reached := (reached_vying.commit 2).commit 3
  have hfirst : doubled.rows.contracts.get? 2 = some (deal.toContract 2 noon) := by rfl
  have hsecond : doubled.rows.contracts.get? 3 = some (deal.toContract 3 noon) := by rfl
  have hrivals := (Store.Reached.two_contracts hreached).1 2 3 _ _ hfirst hsecond (by decide) rfl
  have hsigns : vying.Signs 2 2 5 := ⟨⟨deal.toContract 2 noon, by rfl, rfl⟩, by rfl⟩
  have hsigns' : vying.Signs 3 3 5 := ⟨⟨deal.toContract 3 noon, by rfl, rfl⟩, by rfl⟩
  obtain ⟨-, hkeeps, hkeeps'⟩ :=
    (Store.Reached.two_contracts reached_vying).2 2 3 2 3 5 (by decide) hsigns hsigns'
  exact ⟨_, _, hfirst, hsecond, rfl, rfl, hrivals, hkeeps, hkeeps'⟩

end Story
end LoanDesk
