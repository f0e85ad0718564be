/-
# Moves of a transaction

A call takes numbers and locks, and stages changes. `Store.Move` lists these moves with what is known
when they are made: rows are locked and written under numbers that were given out, and a contract is
staged under a new number only where the transaction sees none for its line. So nothing is stored,
staged or locked under a number that was not given out (`Store.Numbered`).
-/

import LoanDesk.Proofs.Store.Custody
import LoanDesk.Proofs.Store.Mirror
import Mathlib.Logic.Relation

namespace LoanDesk

namespace RowKey

/-- The number in a key. -/
def number : RowKey → Int
  | .request id | .line id => id

/-- The key of a row. -/
def of : Request ⊕ Line → RowKey
  | .inl r => .request r.id
  | .inr l => .line l.id

end RowKey

namespace Store

/-! ### Moves -/

/-- What a transaction does in one go in the course of a call. -/
inductive Move (tx : TxId) (s : Store) : Store → Prop
  | number : Move tx s s.newId.2
  | lock {keys : List RowKey} {t : Store} (hk : ∀ key ∈ keys, key.number ≤ s.lastId)
    (ht : s.tryLock tx keys = some t) : Move tx s t
  | write {f : Changes → Changes}
    (hrow : ∀ key x, (f (s.changes tx)).row? key = some (some x) →
      (s.changes tx).row? key = some (some x) ∨ RowKey.of x = key ∧ key.number ≤ s.lastId)
    (hcontract : (f (s.changes tx)).contracts = (s.changes tx).contracts) : Move tx s (s.stage tx f)
  | sign {d : ContractDraft} {now : Instant}
    (hnone : ∀ id k, (s.view tx).contracts.get? id = some k → k.line ≠ d.line) :
    Move tx s (s.newId.2.stage tx fun c => { c with
      contracts := c.contracts.insert (s.lastId + 1) (some (d.toContract (s.lastId + 1) now)) })
  | amend {id : Int} {k : Contract} {at_ : Instant}
    (hk : (s.view tx).contracts.get? id = some k) :
    Move tx s (s.stage tx fun c => { c with
      contracts := c.contracts.insert id (some { k with guaranteeEndedAt := some at_ }) })

/-- Moves of one transaction, one after another. -/
abbrev Moves (tx : TxId) : Store → Store → Prop := Relation.ReflTransGen (Move tx)

/-- What a transaction has staged afterwards is its changes, changed. -/
theorem changes_stage (s : Store) (tx : TxId) (f : Changes → Changes) :
    (s.stage tx f).changes tx = f (s.changes tx) := by
  rw [changes, stage, Table.get?_insert, if_pos rfl]
  rfl

/-- What others have staged is as it was. -/
theorem changes_stage_of_ne (s : Store) {tx i : TxId} (h : i ≠ tx) (f : Changes → Changes) :
    (s.stage tx f).changes i = s.changes i := by
  rw [changes, stage, Table.get?_insert, if_neg (Ne.symm h)]
  rfl

/-- A move stays within the frame of its transaction. -/
theorem Move.frame {tx : TxId} {s t : Store} (h : Move tx s t) : Frame tx s t := by
  cases h with
  | number => exact frame_newId s tx
  | lock _ ht => exact frame_tryLock ht
  | write => exact frame_stage s tx _
  | sign => exact (frame_newId s tx).trans (frame_stage _ tx _)
  | amend => exact frame_stage s tx _

/-- Moves of a transaction stay within its frame. -/
theorem Moves.frame {tx : TxId} {s t : Store} (h : Moves tx s t) : Frame tx s t := by
  induction h with
  | refl => exact .refl tx s
  | tail _ hm ih => exact ih.trans hm.frame

/-! ### Numbers that were given out -/

/-- Requests, lines and contracts stand under their own numbers, and these were given out; so were
the numbers that are locked. -/
structure Numbered (s : Store) : Prop where
  stored : ∀ key x, s.rows.row? key = some x → RowKey.of x = key ∧ key.number ≤ s.lastId
  staged : ∀ tx key x, (s.changes tx).row? key = some (some x) →
    RowKey.of x = key ∧ key.number ≤ s.lastId
  signed : ∀ id k, s.rows.contracts.get? id = some k → k.id = id ∧ id ≤ s.lastId
  signing : ∀ tx id k, (s.changes tx).contracts.get? id = some (some k) → k.id = id ∧ id ≤ s.lastId
  held : ∀ key tx, s.locks.holder? key = some tx → key.number ≤ s.lastId

namespace Numbered

variable {s : Store} {tx : TxId}

/-- A row that a transaction sees stands under its key, and its number was given out. -/
theorem seen (h : s.Numbered) {key : RowKey} {x : Request ⊕ Line}
    (hx : (s.view tx).row? key = some x) : RowKey.of x = key ∧ key.number ≤ s.lastId := by
  rw [view, Rows.row?_overlay] at hx
  cases hc : (s.changes tx).row? key with
  | none =>
    rw [hc] at hx
    exact h.stored key x hx
  | some x? =>
    rw [hc] at hx
    exact h.staged tx key x (by rw [hc]; exact congrArg some hx)

/-- Stored requests stand under their own numbers. -/
theorem keyed_requests (h : s.Numbered) : s.rows.requests.Keyed Request.id := fun id r hr =>
  RowKey.request.inj (h.stored (.request id) (.inl r) (by rw [Rows.row?, hr]; rfl)).1

/-- Stored lines stand under their own numbers. -/
theorem keyed_lines (h : s.Numbered) : s.rows.lines.Keyed Line.id := fun id l hl =>
  RowKey.line.inj (h.stored (.line id) (.inr l) (by rw [Rows.row?, hl]; rfl)).1

/-- A request that a transaction sees stands under its number, which was given out. -/
theorem seen_request (h : s.Numbered) {id : Int} {r : Request}
    (hr : (s.view tx).requests.get? id = some r) : r.id = id ∧ id ≤ s.lastId := by
  have hrow : (s.view tx).row? (.request id) = some (.inl r) := by simp [Rows.row?, hr]
  obtain ⟨hkey, hle⟩ := h.seen hrow
  exact ⟨RowKey.request.inj hkey, hle⟩

/-- A line that a transaction sees stands under its number, which was given out. -/
theorem seen_line (h : s.Numbered) {id : Int} {l : Line}
    (hl : (s.view tx).lines.get? id = some l) : l.id = id ∧ id ≤ s.lastId := by
  have hrow : (s.view tx).row? (.line id) = some (.inr l) := by simp [Rows.row?, hl]
  obtain ⟨hkey, hle⟩ := h.seen hrow
  exact ⟨RowKey.line.inj hkey, hle⟩

/-- A contract that a transaction sees stands under its number, which was given out. -/
theorem seen_contract (h : s.Numbered) {id : Int} {k : Contract}
    (hk : (s.view tx).contracts.get? id = some k) : k.id = id ∧ id ≤ s.lastId := by
  rw [view, Rows.overlay] at hk
  simp only [Table.get?_overlay] at hk
  cases hc : (s.changes tx).contracts.get? id with
  | none =>
    rw [hc] at hk
    exact h.signed id k hk
  | some k? =>
    rw [hc] at hk
    exact h.signing tx id k (by rw [hc]; exact congrArg some hk)

/-- The numbers of the requests that a transaction sees were given out. -/
theorem mem_requests (h : s.Numbered) {r : Request} (hr : r ∈ (s.view tx).requests.values) :
    r.id ≤ s.lastId := by
  obtain ⟨id, hid⟩ := Table.mem_values.1 hr
  obtain ⟨rfl, hle⟩ := h.seen_request hid
  exact hle

/-- The numbers of the lines that a transaction sees were given out. -/
theorem mem_lines (h : s.Numbered) {l : Line} (hl : l ∈ (s.view tx).lines.values) :
    l.id ≤ s.lastId := by
  obtain ⟨id, hid⟩ := Table.mem_values.1 hl
  obtain ⟨rfl, hle⟩ := h.seen_line hid
  exact hle

/-- Numbers stay given out while a transaction stages under such numbers alone. -/
theorem stage (h : s.Numbered) {n : Int} (hn : s.lastId ≤ n) {f : Changes → Changes}
    (hrow : ∀ key x, (f (s.changes tx)).row? key = some (some x) →
      (s.changes tx).row? key = some (some x) ∨ RowKey.of x = key ∧ key.number ≤ n)
    (hcontract : ∀ id k, (f (s.changes tx)).contracts.get? id = some (some k) →
      (s.changes tx).contracts.get? id = some (some k) ∨ k.id = id ∧ id ≤ n) :
    Numbered ({ s with lastId := n }.stage tx f) where
  stored key x hx := (h.stored key x hx).imp_right fun hle => Int.le_trans hle hn
  staged i key x hx := by
    have hold : (s.changes i).row? key = some (some x) → RowKey.of x = key ∧ key.number ≤ n :=
      fun hx => (h.staged i key x hx).imp_right fun hle => Int.le_trans hle hn
    by_cases hi : i = tx
    · subst hi
      rw [changes_stage] at hx
      exact (hrow key x hx).elim hold id
    · rw [changes_stage_of_ne _ hi] at hx
      exact hold hx
  signed id k hk := (h.signed id k hk).imp_right fun hle => Int.le_trans hle hn
  signing i id k hk := by
    have hold : (s.changes i).contracts.get? id = some (some k) → k.id = id ∧ id ≤ n :=
      fun hk => (h.signing i id k hk).imp_right fun hle => Int.le_trans hle hn
    by_cases hi : i = tx
    · subst hi
      rw [changes_stage] at hk
      exact (hcontract id k hk).elim hold fun hk => hk
    · rw [changes_stage_of_ne _ hi] at hk
      exact hold hk
  held key i hk := Int.le_trans (h.held key i hk) hn

end Numbered

/-- A move uses only numbers that were given out. -/
theorem Move.numbered {tx : TxId} {s t : Store} (hm : Move tx s t) (h : s.Numbered) :
    t.Numbered := by
  cases hm with
  | number =>
    have hle : s.lastId ≤ s.lastId + 1 := Int.le_add_one (Int.le_refl _)
    exact ⟨fun key x hx => (h.stored key x hx).imp_right (Int.le_trans · hle),
      fun i key x hx => (h.staged i key x hx).imp_right (Int.le_trans · hle),
      fun id k hk => (h.signed id k hk).imp_right (Int.le_trans · hle),
      fun i id k hk => (h.signing i id k hk).imp_right (Int.le_trans · hle),
      fun key i hk => Int.le_trans (h.held key i hk) hle⟩
  | lock hk ht =>
    have hlocks := fun key => frame_tryLock ht |>.locks key
    unfold tryLock at ht
    split at ht
    · obtain rfl := Option.some.inj ht
      refine ⟨h.stored, h.staged, h.signed, h.signing, fun key i hi => ?_⟩
      rw [Locks.holder?_foldl_take] at hi
      split at hi
      · exact hk key ‹_›
      · exact h.held key i hi
    · cases ht
  | write hrow hcontract =>
    exact h.stage (Int.le_refl _) hrow fun id k hk => Or.inl (by rwa [← hcontract])
  | sign =>
    refine h.stage (Int.le_add_one (Int.le_refl _)) (fun key x hx => ?_) fun id k hk => ?_
    · cases key <;> exact Or.inl hx
    · rcases Table.get?_insert_eq_some.1 hk with ⟨rfl, hnew⟩ | ⟨-, hk⟩
      · obtain rfl := Option.some.inj hnew
        exact Or.inr ⟨rfl, Int.le_refl _⟩
      · exact Or.inl hk
  | amend hseen =>
    refine h.stage (Int.le_refl _) (fun key x hx => ?_) fun id k hk => ?_
    · cases key <;> exact Or.inl hx
    · rcases Table.get?_insert_eq_some.1 hk with ⟨rfl, hnew⟩ | ⟨-, hk⟩
      · obtain rfl := Option.some.inj hnew
        obtain ⟨hid, hle⟩ := h.seen_contract hseen
        exact Or.inr ⟨hid, hle⟩
      · exact Or.inl hk

/-- Moves of a transaction use only numbers that were given out. -/
theorem Moves.numbered {tx : TxId} {s t : Store} (hm : Moves tx s t) (h : s.Numbered) :
    t.Numbered := by
  induction hm with
  | refl => exact h
  | tail _ hm ih => exact hm.numbered ih

end Store
end LoanDesk
