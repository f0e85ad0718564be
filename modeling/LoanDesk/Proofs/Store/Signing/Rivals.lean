/-
# Contracts that are kept and staged

A contract keeps its line for good, and as long as it is not stored only the transaction that made it
has staged it (`Store.Ruled`). Of two contracts for a line that are known after moves of one
transaction, both were known before, or two transactions have each staged one of them
(`Store.Moves.signing`).
-/

import LoanDesk.Proofs.Store.Moves

namespace LoanDesk
namespace Store

/-! ### Steps of anybody -/

/-- Somebody makes a step. -/
def Step (s t : Store) : Prop :=
  ∃ (c : Command) (x : c.Answer), (∀ tx d, c = .call tx d → s.IsOpen tx) ∧ s.Does c x t

/-- Steps of anybody lead from one store to another. -/
abbrev Leads : Store → Store → Prop := Relation.ReflTransGen Step

/-- A contract for the line is stored under the number. -/
def Keeps (s : Store) (i line : Int) : Prop :=
  ∃ k, s.rows.contracts.get? i = some k ∧ k.line = line

/-- The transaction has staged a contract for the line under the number. -/
def Stages (s : Store) (tx : TxId) (i line : Int) : Prop :=
  ∃ k, (s.changes tx).contracts.get? i = some (some k) ∧ k.line = line

/-- The transaction has staged a new contract for the line. -/
def Signs (s : Store) (tx : TxId) (i line : Int) : Prop :=
  s.Stages tx i line ∧ s.rows.contracts.get? i = none

/-- Somebody has stored or staged a contract for the line under the number. -/
def Known (s : Store) (i line : Int) : Prop := s.Keeps i line ∨ ∃ tx, s.Stages tx i line

/-- Two transactions have each staged a new contract for the line. -/
def Rivals (s : Store) (i j line : Int) : Prop :=
  ∃ tx tx', tx ≠ tx' ∧ s.Signs tx i line ∧ s.Signs tx' j line

/-- No contract is staged to go, contracts keep their lines, and one that is not stored is staged by
one transaction alone. -/
structure Ruled (s : Store) : Prop where
  kept : ∀ tx i, (s.changes tx).contracts.get? i ≠ some none
  same : ∀ {tx i l l'}, s.Stages tx i l → s.Keeps i l' → l = l'
  own : ∀ {tx tx' i l l'}, s.Stages tx i l → s.Stages tx' i l' → s.rows.contracts.get? i = none →
    tx = tx'

/-- Who has staged a contract is open. -/
theorem Stages.isOpen {s : Store} {tx : TxId} {i line : Int} (h : s.Stages tx i line) :
    s.IsOpen tx := by
  obtain ⟨k, hk, -⟩ := h
  unfold changes at hk
  unfold IsOpen
  cases hopen : s.opened.get? tx with
  | none => simp [hopen, Changes.none] at hk
  | some c => rfl

/-- A transaction sees the contract that it has staged under a number, or else the stored one. -/
theorem get?_view_contracts (s : Store) (tx : TxId) (i : Int) :
    (s.view tx).contracts.get? i =
      ((s.changes tx).contracts.get? i).getD (s.rows.contracts.get? i) := by
  simp only [view, Rows.overlay, Table.get?_overlay]
  cases (s.changes tx).contracts.get? i <;> rfl

namespace Ruled

variable {s t : Store} {tx : TxId}

/-- A transaction sees the contracts that are stored and those that it has staged. -/
theorem sees_iff (h : s.Ruled) {i line : Int} :
    (∃ k, (s.view tx).contracts.get? i = some k ∧ k.line = line) ↔
      s.Keeps i line ∨ s.Stages tx i line := by
  rw [get?_view_contracts]
  cases hc : (s.changes tx).contracts.get? i with
  | none =>
    have hnot : ¬s.Stages tx i line := by
      rintro ⟨k, hk, -⟩
      rw [hc] at hk
      cases hk
    simp only [hnot, or_false]
    rfl
  | some k? =>
    cases k? with
    | none => exact absurd hc (h.kept tx i)
    | some k =>
      constructor
      · rintro ⟨k', hk', hline⟩
        obtain rfl := Option.some.inj hk'
        exact Or.inr ⟨k, hc, hline⟩
      · rintro (hkept | ⟨k', hk', hline⟩)
        · exact ⟨k, rfl, h.same ⟨k, hc, rfl⟩ hkept⟩
        · rw [hc] at hk'
          obtain rfl := Option.some.inj (Option.some.inj hk')
          exact ⟨k, rfl, hline⟩

/-- Where the stored contracts are as they were, and what is staged was staged. -/
theorem of_staged (h : s.Ruled) (hrows : t.rows.contracts = s.rows.contracts)
    (hc : ∀ tx i, (t.changes tx).contracts.get? i = none ∨
      (t.changes tx).contracts.get? i = (s.changes tx).contracts.get? i) :
    t.Ruled ∧ ∀ i line, t.Known i line → s.Known i line := by
  have hkeeps : ∀ {i line}, t.Keeps i line → s.Keeps i line := by
    rintro i line ⟨k, hk, hline⟩
    exact ⟨k, hrows ▸ hk, hline⟩
  have hstages : ∀ {tx i line}, t.Stages tx i line → s.Stages tx i line := by
    rintro tx i line ⟨k, hk, hline⟩
    rcases hc tx i with hnone | heq
    · rw [hnone] at hk
      cases hk
    · exact ⟨k, heq ▸ hk, hline⟩
  refine ⟨⟨fun tx i hgone => ?_, fun hs hk => h.same (hstages hs) (hkeeps hk),
    fun hs hs' hnone => h.own (hstages hs) (hstages hs') (hrows ▸ hnone)⟩, fun i line hknown => ?_⟩
  · rcases hc tx i with hnone | heq
    · rw [hnone] at hgone
      cases hgone
    · exact h.kept tx i (heq ▸ hgone)
  · exact hknown.imp hkeeps fun ⟨tx, hs⟩ => ⟨tx, hstages hs⟩

end Ruled

/-- Who has the same contracts staged has staged this one. -/
theorem Stages.of_changes {s t : Store} {tx : TxId} {i line : Int} (h : s.Stages tx i line)
    (hc : (t.changes tx).contracts = (s.changes tx).contracts) : t.Stages tx i line := by
  obtain ⟨k, hk, hline⟩ := h
  exact ⟨k, hc ▸ hk, hline⟩

/-! ### Moves -/

/-- A transaction stages a contract under a number: the others have staged what they had, and it has
staged the contract besides. -/
theorem stages_stage_iff {s : Store} {n : Int} {tx i : TxId} {id j line : Int} {k : Contract} :
    ({ s with lastId := n }.stage tx fun c => { c with
      contracts := c.contracts.insert id (some k) }).Stages i j line ↔
      (i = tx ∧ j = id ∧ k.line = line) ∨ (¬(i = tx ∧ j = id) ∧ s.Stages i j line) := by
  unfold Stages
  by_cases hi : i = tx
  · subst hi
    rw [changes_stage]
    simp only [Table.get?_insert, eq_comm (a := id)]
    by_cases hj : j = id
    · simp [hj]
    · simp [hj]
      rfl
  · rw [changes_stage_of_ne _ hi]
    simp [hi]
    rfl

/-- A contract is staged for the line of one that is known under its number, or under a new number. -/
theorem Ruled.stage {s : Store} {n : Int} {tx : TxId} {id : Int} {k : Contract} (h : s.Ruled)
    (hsame : ∀ l, s.Keeps id l → k.line = l)
    (hown : s.rows.contracts.get? id = none → ∀ i l, s.Stages i id l → i = tx) :
    Ruled ({ s with lastId := n }.stage tx fun c => { c with
      contracts := c.contracts.insert id (some k) }) where
  kept i j hgone := by
    by_cases hi : i = tx
    · subst hi
      rw [changes_stage, Table.get?_insert] at hgone
      split at hgone
      · cases hgone
      · exact h.kept i j hgone
    · rw [changes_stage_of_ne _ hi] at hgone
      exact h.kept i j hgone
  same hs hk := by
    rcases stages_stage_iff.1 hs with ⟨-, rfl, hline⟩ | ⟨-, hs⟩
    · exact hline ▸ hsame _ hk
    · exact h.same hs hk
  own hs hs' hnone := by
    rcases stages_stage_iff.1 hs with ⟨hi, hid, -⟩ | ⟨-, hold⟩
    · rcases stages_stage_iff.1 hs' with ⟨hi', -⟩ | ⟨-, hold'⟩
      · exact hi.trans hi'.symm
      · subst hid
        exact hi.trans (hown hnone _ _ hold').symm
    · rcases stages_stage_iff.1 hs' with ⟨hi', hid, -⟩ | ⟨-, hold'⟩
      · subst hid
        exact (hown hnone _ _ hold).trans hi'.symm
      · exact h.own hold hold' hnone

/-- A new contract stays staged while another is. -/
theorem Signs.stage {s : Store} {n : Int} {tx i : TxId} {id j line : Int} {k : Contract}
    (h : s.Signs i j line) (hk : i = tx → j = id → k.line = line) :
    ({ s with lastId := n }.stage tx fun c => { c with
      contracts := c.contracts.insert id (some k) }).Signs i j line := by
  refine ⟨stages_stage_iff.2 ?_, h.2⟩
  by_cases hat : i = tx ∧ j = id
  · exact Or.inl ⟨hat.1, hat.2, hk hat.1 hat.2⟩
  · exact Or.inr ⟨hat, h.1⟩

/-- A contract that is known once another is staged is that one or was known. -/
theorem Known.of_stage {s : Store} {n : Int} {tx : TxId} {id j line : Int} {k : Contract}
    (h : ({ s with lastId := n }.stage tx fun c => { c with
      contracts := c.contracts.insert id (some k) }).Known j line) :
    s.Known j line ∨ j = id ∧ k.line = line := by
  rcases h with hkept | ⟨i, hi⟩
  · exact Or.inl (Or.inl hkept)
  · rcases stages_stage_iff.1 hi with ⟨-, hj, hline⟩ | ⟨-, hold⟩
    · exact Or.inr ⟨hj, hline⟩
    · exact Or.inl (Or.inr ⟨i, hold⟩)

/-- What moves of one transaction keep about contracts: of two that are known for a line, either both
were known before, or there are rivals now. -/
structure Signing (s t : Store) : Prop where
  ruled : t.Ruled
  rivals : ∀ {i j line}, s.Rivals i j line → t.Rivals i j line
  known : ∀ {i j line}, i ≠ j → t.Known i line → t.Known j line →
    s.Known i line ∧ s.Known j line ∨ t.Rivals i j line

/-- Where contracts are stored and staged as before nothing is signed. -/
theorem Signing.of_eq {s t : Store} (h : s.Ruled) (hrows : t.rows.contracts = s.rows.contracts)
    (hc : ∀ tx, (t.changes tx).contracts = (s.changes tx).contracts) : Signing s t := by
  obtain ⟨hruled, hknown⟩ := h.of_staged hrows fun tx i => Or.inr (by rw [hc])
  refine ⟨hruled, ?_, fun _ hi hj => Or.inl ⟨hknown _ _ hi, hknown _ _ hj⟩⟩
  rintro i j line ⟨tx, tx', hne, ⟨hi, hinew⟩, ⟨hj, hjnew⟩⟩
  exact ⟨tx, tx', hne, ⟨hi.of_changes (hc tx), hrows ▸ hinew⟩, ⟨hj.of_changes (hc tx'), hrows ▸ hjnew⟩⟩

/-- A contract under a new number is for a line of which its transaction sees no contract. -/
theorem signing_sign {tx : TxId} {s : Store} (h : s.Ruled) (hn : s.Numbered) {d : ContractDraft}
    {now : Instant} (hnone : ∀ id k, (s.view tx).contracts.get? id = some k → k.line ≠ d.line) :
    Signing s (s.newId.2.stage tx fun c => { c with
      contracts := c.contracts.insert (s.lastId + 1) (some (d.toContract (s.lastId + 1) now)) }) := by
  have hunseen : ∀ j, ¬(s.Keeps j d.line ∨ s.Stages tx j d.line) := by
    intro j hj
    obtain ⟨k, hk, hline⟩ := h.sees_iff.2 hj
    exact hnone j k hk hline
  have hnew : s.rows.contracts.get? (s.lastId + 1) = none := by
    cases hget : s.rows.contracts.get? (s.lastId + 1) with
    | none => rfl
    | some k => exact absurd (hn.signed _ k hget).2 (by omega)
  have hfresh : ∀ i l, ¬s.Stages i (s.lastId + 1) l := by
    rintro i l ⟨k, hk, -⟩
    exact absurd (hn.signing i _ k hk).2 (by omega)
  -- whoever has a contract for the line has staged it, and is somebody else
  have hrival : ∀ j, s.Known j d.line → ∃ i, i ≠ tx ∧ s.Signs i j d.line := by
    rintro j (hkept | ⟨i, hi⟩)
    · exact absurd (Or.inl hkept) (hunseen j)
    · refine ⟨i, fun he => hunseen j (Or.inr (he ▸ hi)), hi, ?_⟩
      cases hget : s.rows.contracts.get? j with
      | none => rfl
      | some k => exact absurd (Or.inl ⟨k, hget, (h.same hi ⟨k, hget, rfl⟩).symm⟩) (hunseen j)
  have hmine : Signs (s.newId.2.stage tx fun c => { c with
      contracts := c.contracts.insert (s.lastId + 1) (some (d.toContract (s.lastId + 1) now)) })
      tx (s.lastId + 1) d.line := ⟨stages_stage_iff.2 (Or.inl ⟨rfl, rfl, rfl⟩), hnew⟩
  have hstays : ∀ {i j line}, s.Signs i j line → Signs (s.newId.2.stage tx fun c => { c with
      contracts := c.contracts.insert (s.lastId + 1) (some (d.toContract (s.lastId + 1) now)) })
      i j line := fun hs => hs.stage fun _ he => absurd (he ▸ hs.1) (hfresh _ _)
  refine ⟨h.stage (fun l ⟨k, hk, _⟩ => ?_) fun _ i l hi => absurd hi (hfresh i l), ?_, ?_⟩
  · rw [hnew] at hk
    cases hk
  · rintro i j line ⟨tx₁, tx₂, hne, hi, hj⟩
    exact ⟨tx₁, tx₂, hne, hstays hi, hstays hj⟩
  · intro i j line hne hi hj
    rcases hi.of_stage with hi | ⟨rfl, rfl⟩
    · rcases hj.of_stage with hj | ⟨rfl, rfl⟩
      · exact Or.inl ⟨hi, hj⟩
      · obtain ⟨other, hother, hsigns⟩ := hrival i hi
        exact Or.inr ⟨other, tx, hother, hstays hsigns, hmine⟩
    · rcases hj.of_stage with hj | ⟨rfl, -⟩
      · obtain ⟨other, hother, hsigns⟩ := hrival j hj
        exact Or.inr ⟨tx, other, hother.symm, hmine, hstays hsigns⟩
      · exact absurd rfl hne

/-- A contract that is amended is for the same line. -/
theorem signing_amend {tx : TxId} {s : Store} (h : s.Ruled) {id : Int} {k : Contract}
    {at_ : Instant} (hk : (s.view tx).contracts.get? id = some k) :
    Signing s (s.stage tx fun c => { c with
      contracts := c.contracts.insert id (some { k with guaranteeEndedAt := some at_ }) }) := by
  have hline : ∀ l, s.Keeps id l ∨ s.Stages tx id l → k.line = l := by
    intro l hl
    obtain ⟨k', hk', rfl⟩ := h.sees_iff.2 hl
    rw [hk] at hk'
    rw [Option.some.inj hk']
  have hknown : ∀ {j line}, s.Known j line ∨ j = id ∧ k.line = line → s.Known j line := by
    rintro j line (hj | ⟨rfl, rfl⟩)
    · exact hj
    · exact (h.sees_iff.1 ⟨k, hk, rfl⟩).imp_right fun hs => ⟨tx, hs⟩
  refine ⟨h.stage (fun l hl => hline l (Or.inl hl)) fun hnone i l hi => ?_, ?_, ?_⟩
  · have hmine := (h.sees_iff.1 ⟨k, hk, rfl⟩).resolve_left fun ⟨k', hk', _⟩ => by
      rw [hnone] at hk'
      cases hk'
    exact h.own hi hmine hnone
  · rintro i j line ⟨tx₁, tx₂, hne, hi, hj⟩
    refine ⟨tx₁, tx₂, hne, hi.stage ?_, hj.stage ?_⟩
    · rintro rfl rfl
      exact hline line (Or.inr hi.1)
    · rintro rfl rfl
      exact hline line (Or.inr hj.1)
  · exact fun _ hi hj => Or.inl ⟨hknown hi.of_stage, hknown hj.of_stage⟩

/-- A move lets two contracts for a line come about only between rivals. -/
theorem Move.signing {tx : TxId} {s t : Store} (hm : Move tx s t) (h : s.Ruled) (hn : s.Numbered) :
    Signing s t := by
  cases hm with
  | number => exact .of_eq h rfl fun _ => rfl
  | lock hk ht =>
    have hf := frame_tryLock ht
    unfold tryLock at ht
    split at ht
    · obtain rfl := Option.some.inj ht
      exact .of_eq h rfl fun _ => rfl
    · cases ht
  | write hrow hcontract =>
    refine .of_eq h rfl fun i => ?_
    by_cases hi : i = tx
    · subst hi
      rw [changes_stage, hcontract]
    · rw [changes_stage_of_ne _ hi]
  | sign hnone => exact signing_sign h hn hnone
  | amend hk => exact signing_amend h hk

/-- Moves of a transaction let two contracts for a line come about only between rivals. -/
theorem Moves.signing {tx : TxId} {s t : Store} (hm : Moves tx s t) (h : s.Ruled)
    (hn : s.Numbered) : Signing s t := by
  induction hm with
  | refl => exact .of_eq h rfl fun _ => rfl
  | tail hms hm ih =>
    have hnext := hm.signing ih.ruled (Moves.numbered hms hn)
    refine ⟨hnext.ruled, fun hr => hnext.rivals (ih.rivals hr), fun hne hi hj => ?_⟩
    rcases hnext.known hne hi hj with ⟨hi, hj⟩ | hr
    · exact (ih.known hne hi hj).imp_right hnext.rivals
    · exact Or.inr hr

end Store
end LoanDesk
