/-
# The steps of a store

`Store.Does` is what a command does to a store and what it gives; `Store.May` adds that any
operation of the store may fail at any time, as sessions with faults have it (`Session.handle_may`).
What comes about from the empty store by steps that do not fail is `Store.Reached`.

`Store.Apart` is what the steps of others leave alone for the transactions of a program: their
staged changes and their locks. Every step that is about somebody else's transaction is apart in
that sense (`May.apart`), and steps keep a store orderly (`May.orderly`).
-/

import LoanDesk.Proofs.Store.Book
import LoanDesk.Session.Basic

namespace LoanDesk

/-! ### The transactions of a program -/

namespace Command

/-- The command is about a transaction among these, or about none. -/
def Owned (mine : List TxId) : Command → Prop
  | .call tx _ | .commit tx | .drop tx => tx ∈ mine
  | .begin | .deliver _ => True

/-- The command is about no transaction among these. -/
def Foreign (mine : List TxId) : Command → Prop
  | .call tx _ | .commit tx | .drop tx => tx ∉ mine
  | .begin | .deliver _ => True

/-- The open transactions of a program after a command and its answer. -/
def after (mine : List TxId) : (c : Command) → c.Answer → List TxId
  | .begin, .ok tx => tx :: mine
  | .begin, .error _ => mine
  | .commit tx, _ | .drop tx, _ => mine.filter (· != tx)
  | .call _ _, _ | .deliver _, _ => mine

end Command

namespace Store

/-! ### What commands do -/

/-- What a command does to a store, and what it gives. An event may arrive or not. -/
def Does (s : Store) : (c : Command) → c.Answer → Store → Prop
  | .begin, x, t => x = .ok s.begin.1 ∧ t = s.begin.2
  | .call tx c, x, t => (x, t) = s.perform tx c
  | .commit tx, x, t => x = .ok () ∧ t = s.commit tx
  | .drop tx, _, t => t = s.drop tx
  | .deliver _, _, t => t = s

/-- An operation of the store fails: it does nothing, but a transaction that was to be committed
ends. -/
def Fails (s : Store) : (c : Command) → c.Answer → Store → Prop
  | .begin, x, t => (∃ e, x = .error e) ∧ t = s
  | .call _ _, x, t => (∃ e, x = .error e) ∧ t = s
  | .commit tx, x, t => (∃ e, x = .error e) ∧ t = s.drop tx
  | .drop _, _, _ | .deliver _, _, _ => False

/-- What a command may do where operations of the store may fail. -/
def May (s : Store) (c : Command) (x : c.Answer) (t : Store) : Prop := s.Does c x t ∨ s.Fails c x t

/-- Numbers only go up. -/
theorem May.lastId {s t : Store} : ∀ {c : Command} {x : c.Answer}, s.May c x t → s.lastId ≤ t.lastId
  | .begin, _, .inl ⟨_, ht⟩ => by subst ht; exact Int.le_refl _
  | .begin, _, .inr ⟨_, ht⟩ => by subst ht; exact Int.le_refl _
  | .call tx c, x, .inl h => by
    have hf := (perform_frame s tx c).lastId
    rwa [← show (x, t) = _ from h] at hf
  | .call _ _, _, .inr ⟨_, ht⟩ => by subst ht; exact Int.le_refl _
  | .commit _, _, .inl ⟨_, ht⟩ => by subst ht; exact Int.le_refl _
  | .commit _, _, .inr ⟨_, ht⟩ => by subst ht; exact Int.le_refl _
  | .drop _, _, .inl h => Int.le_of_eq (by rw [show t = _ from h]; rfl)
  | .deliver _, _, .inl h => Int.le_of_eq (by rw [show t = _ from h])

/-- A transaction that has just begun sees what is stored. -/
theorem book_begin (s : Store) : s.begin.2.book s.begin.1 = s.stored := by
  simp only [book, stored, view, changes, begin, Table.get?_insert, if_pos]
  rfl

/-- A call stores nothing. -/
theorem rows_perform (s : Store) (tx : TxId) (c : Call) : (s.perform tx c).2.rows = s.rows :=
  (perform_frame s tx c).rows

/-- Only a commit changes what is stored. -/
theorem May.rows {s t : Store} : ∀ {c : Command} {x : c.Answer}, s.May c x t →
    t.rows = s.rows ∨ ∃ tx, c = .commit tx ∧ t = s.commit tx
  | .begin, _, .inl ⟨_, ht⟩ => .inl (by rw [ht]; rfl)
  | .begin, _, .inr ⟨_, ht⟩ => .inl (by rw [ht])
  | .call tx c, x, .inl h => .inl (by rw [← rows_perform s tx c, ← show (x, t) = _ from h])
  | .call _ _, _, .inr ⟨_, ht⟩ => .inl (by rw [ht])
  | .commit tx, _, .inl ⟨_, ht⟩ => .inr ⟨tx, rfl, ht⟩
  | .commit _, _, .inr ⟨_, ht⟩ => .inl (by rw [ht]; rfl)
  | .drop _, _, .inl h => .inl (by rw [show t = _ from h]; rfl)
  | .deliver _, _, .inl h => .inl (by rw [show t = _ from h])

/-- What a command gives and does where nothing fails. -/
def answer (s : Store) : (c : Command) → c.Answer × Store
  | .begin => (.ok s.begin.1, s.begin.2)
  | .call tx c => s.perform tx c
  | .commit tx => (.ok (), s.commit tx)
  | .drop tx => ((), s.drop tx)
  | .deliver _ => (.ok (), s)

/-- Where nothing fails a command does what it may do. -/
theorem does_answer (s : Store) (c : Command) : s.Does c (s.answer c).1 (s.answer c).2 := by
  cases c with
  | begin => exact ⟨rfl, rfl⟩
  | call tx c => exact rfl
  | commit tx => exact ⟨rfl, rfl⟩
  | drop tx => exact rfl
  | deliver e => exact rfl

/-! ### Steps of others -/

/-- What the others leave alone for these transactions. -/
structure Apart (mine : List TxId) (s t : Store) : Prop where
  lastId : s.lastId ≤ t.lastId
  lastTx : s.lastTx ≤ t.lastTx
  opened : ∀ tx ∈ mine, t.opened.get? tx = s.opened.get? tx
  locks : ∀ key, ∀ tx ∈ mine, t.locks.holder? key = some tx ↔ s.locks.holder? key = some tx

namespace Apart

variable {mine : List TxId} {s t u : Store}

/-- Where others make no step they leave everything alone. -/
theorem refl (mine : List TxId) (s : Store) : Apart mine s s :=
  ⟨Int.le_refl _, Int.le_refl _, fun _ _ => rfl, fun _ _ _ => Iff.rfl⟩

/-- What the steps of others leave alone they leave alone one after the other. -/
theorem trans (h₁ : Apart mine s t) (h₂ : Apart mine t u) : Apart mine s u where
  lastId := Int.le_trans h₁.lastId h₂.lastId
  lastTx := Int.le_trans h₁.lastTx h₂.lastTx
  opened tx hm := (h₂.opened tx hm).trans (h₁.opened tx hm)
  locks key tx hm := (h₂.locks key tx hm).trans (h₁.locks key tx hm)

/-- The transactions stay open. -/
theorem isOpen (h : Apart mine s t) {tx : TxId} (hm : tx ∈ mine) (ho : s.IsOpen tx) :
    t.IsOpen tx := by
  rw [IsOpen, h.opened tx hm]
  exact ho

/-- What the transactions have staged stays as it is. -/
theorem changes (h : Apart mine s t) {tx : TxId} (hm : tx ∈ mine) : t.changes tx = s.changes tx := by
  rw [Store.changes, Store.changes, h.opened tx hm]

/-- What the transactions see stays as it is while nothing is stored. -/
theorem view (h : Apart mine s t) (hrows : t.rows = s.rows) {tx : TxId} (hm : tx ∈ mine) :
    t.view tx = s.view tx := by
  rw [Store.view, Store.view, h.changes hm, hrows]

end Apart

/-- A transaction that begins leaves those alone that are open. -/
theorem apart_begin {mine : List TxId} {s : Store} (h : s.Orderly)
    (hm : ∀ tx ∈ mine, s.IsOpen tx) : Apart mine s s.begin.2 where
  lastId := Int.le_refl _
  lastTx := Int.le_add_one (Int.le_refl _)
  opened tx htx := by
    have hne : s.lastTx + 1 ≠ tx := by
      rintro rfl
      exact absurd (h.numbered _ (hm _ htx)) (Int.not_le.2 (Int.lt_succ _))
    rw [begin, Table.get?_insert, if_neg hne]
  locks _ _ _ := Iff.rfl

/-- A call leaves the transactions of others alone. -/
theorem Frame.apart {mine : List TxId} {s t : Store} {tx : TxId} (h : Frame tx s t)
    (hm : tx ∉ mine) : Apart mine s t where
  lastId := h.lastId
  lastTx := Int.le_of_eq h.lastTx.symm
  opened i hi := h.others i fun he => hm (he ▸ hi)
  locks key i hi := h.locks key i fun he => hm (he ▸ hi)

/-- Dropping a transaction leaves those of others alone. -/
theorem apart_drop {mine : List TxId} (s : Store) {tx : TxId} (hm : tx ∉ mine) :
    Apart mine s (s.drop tx) where
  lastId := Int.le_refl _
  lastTx := Int.le_refl _
  opened i hi := by
    have hne : tx ≠ i := fun he => hm (he ▸ hi)
    rw [drop, Table.get?_erase, if_neg hne]
  locks key i hi := by
    have hne : i ≠ tx := fun he => hm (he ▸ hi)
    rw [drop, Locks.holder?_release, Option.filter_eq_some_iff]
    simp [hne]

/-- **A step that is about none of the transactions is apart from them.** -/
theorem May.apart {mine : List TxId} {s t : Store} (h : s.Orderly)
    (hm : ∀ tx ∈ mine, s.IsOpen tx) : ∀ {c : Command} {x : c.Answer}, c.Foreign mine →
      s.May c x t → Apart mine s t
  | .begin, _, _, .inl ⟨_, ht⟩ => by rw [ht]; exact apart_begin h hm
  | .begin, _, _, .inr ⟨_, ht⟩ => by rw [ht]; exact .refl _ _
  | .call tx c, x, hc, .inl hd => by
    have hf := perform_frame s tx c
    rw [← show (x, t) = _ from hd] at hf
    exact hf.apart hc
  | .call _ _, _, _, .inr ⟨_, ht⟩ => by rw [ht]; exact .refl _ _
  | .commit tx, _, hc, .inl ⟨_, ht⟩ => by
    rw [ht]
    have hd := apart_drop { s with rows := s.view tx } hc
    exact ⟨hd.lastId, hd.lastTx, hd.opened, hd.locks⟩
  | .commit _, _, hc, .inr ⟨_, ht⟩ => by rw [ht]; exact apart_drop s hc
  | .drop _, _, hc, .inl hd => by rw [show t = _ from hd]; exact apart_drop s hc
  | .deliver _, _, _, .inl hd => by rw [show t = _ from hd]; exact .refl _ _

/-- A step keeps a store orderly, if calls are made in open transactions. -/
theorem May.orderly {s t : Store} (h : s.Orderly) : ∀ {c : Command} {x : c.Answer},
    (∀ tx d, c = .call tx d → s.IsOpen tx) → s.May c x t → t.Orderly
  | .begin, _, _, .inl ⟨_, ht⟩ => by rw [ht]; exact h.begin
  | .begin, _, _, .inr ⟨_, ht⟩ => by rw [ht]; exact h
  | .call tx c, x, hc, .inl hd => by
    have hp := h.perform (hc tx c rfl) c
    rw [← show (x, t) = _ from hd] at hp
    exact hp
  | .call _ _, _, _, .inr ⟨_, ht⟩ => by rw [ht]; exact h
  | .commit tx, _, _, .inl ⟨_, ht⟩ => by rw [ht]; exact h.commit tx
  | .commit tx, _, _, .inr ⟨_, ht⟩ => by rw [ht]; exact h.drop tx
  | .drop tx, _, _, .inl hd => by rw [show t = _ from hd]; exact h.drop tx
  | .deliver _, _, _, .inl hd => by rw [show t = _ from hd]; exact h

/-- The transactions of a program stay open until it ends them. -/
theorem May.isOpen {mine : List TxId} {s t : Store} (hm : ∀ tx ∈ mine, s.IsOpen tx) :
    ∀ {c : Command} {x : c.Answer}, c.Owned mine → s.May c x t →
      ∀ tx ∈ c.after mine x, t.IsOpen tx
  | .begin, _, _, .inl ⟨hx, ht⟩ => by
    subst hx ht
    intro tx htx
    rw [isOpen_begin]
    rcases List.mem_cons.1 htx with rfl | htx
    · exact Or.inl rfl
    · exact Or.inr (hm tx htx)
  | .begin, _, _, .inr ⟨⟨_, hx⟩, ht⟩ => by
    subst hx ht
    exact hm
  | .call tx c, x, _, .inl hd => by
    have hf := perform_frame s tx c
    rw [← show (x, t) = _ from hd] at hf
    intro i hi
    by_cases he : i = tx
    · subst he
      exact hf.stays (hm i hi)
    · rw [IsOpen, hf.others i he]
      exact hm i hi
  | .call _ _, _, _, .inr ⟨_, ht⟩ => by rw [ht]; exact hm
  | .commit tx, _, _, .inl ⟨_, ht⟩ => by
    subst ht
    intro i hi
    obtain ⟨hi, hne⟩ := List.mem_filter.1 hi
    exact (isOpen_commit s tx i).2 ⟨by simpa using hne, hm i hi⟩
  | .commit tx, _, _, .inr ⟨_, ht⟩ => by
    subst ht
    intro i hi
    obtain ⟨hi, hne⟩ := List.mem_filter.1 hi
    exact (isOpen_drop s tx i).2 ⟨by simpa using hne, hm i hi⟩
  | .drop tx, _, _, .inl hd => by
    subst hd
    intro i hi
    obtain ⟨hi, hne⟩ := List.mem_filter.1 hi
    exact (isOpen_drop s tx i).2 ⟨by simpa using hne, hm i hi⟩
  | .deliver _, _, _, .inl hd => by rw [show t = _ from hd]; exact hm

/-! ### Stores that come about -/

/-- A store that comes about from the empty one by begun transactions, calls in open ones and their
ends. -/
inductive Reached : Store → Prop
  | empty : Reached .empty
  | step {s t : Store} {c : Command} {x : c.Answer} (h : Reached s)
    (hc : ∀ tx d, c = .call tx d → s.IsOpen tx) (hs : s.Does c x t) : Reached t

/-- **A store that comes about is orderly.** -/
theorem Reached.orderly {s : Store} (h : s.Reached) : s.Orderly := by
  induction h with
  | empty => exact orderly_empty
  | step h hc hs ih => exact May.orderly ih hc (Or.inl hs)

end Store

/-! ### Sessions -/

namespace Session

/-- Faults strike first, and what they leave in force is what the rest of a step sees. -/
theorem strike_bind {α : Type} (operation : String) (f : Option StoreError → StateM Session α)
    (s : Session) :
    (strike operation >>= f) s = f (Fault.strikeAll operation s.faults).1
      { s with faults := (Fault.strikeAll operation s.faults).2 } := rfl

/-- A session begins a transaction, unless a fault strikes. -/
theorem handle_begin (s : Session) :
    handle .begin s = match Fault.strikeAll "begin" s.faults with
      | (some e, fs) => (.error e, { s with faults := fs })
      | (none, fs) => (.ok s.store.begin.1, { s with store := s.store.begin.2, faults := fs }) := by
  rw [handle, strike_bind]
  obtain ⟨e?, fs⟩ := Fault.strikeAll "begin" s.faults
  cases e? <;> rfl

/-- A session makes a call, unless a fault strikes. -/
theorem handle_call (s : Session) (tx : TxId) (c : Call) :
    handle (.call tx c) s = match Fault.strikeAll c.name s.faults with
      | (some e, fs) => (.error e, { s with faults := fs })
      | (none, fs) =>
        ((s.store.perform tx c).1, { s with store := (s.store.perform tx c).2, faults := fs }) := by
  rw [handle, strike_bind]
  obtain ⟨e?, fs⟩ := Fault.strikeAll c.name s.faults
  cases e? <;> rfl

/-- A session commits a transaction, and drops it where a fault strikes. -/
theorem handle_commit (s : Session) (tx : TxId) :
    handle (.commit tx) s = match Fault.strikeAll "commit" s.faults with
      | (some e, fs) => (.error e, { s with store := s.store.drop tx, faults := fs })
      | (none, fs) => (.ok (), { s with store := s.store.commit tx, faults := fs }) := by
  rw [handle, strike_bind]
  obtain ⟨e?, fs⟩ := Fault.strikeAll "commit" s.faults
  cases e? <;> rfl

/-- What a session does with a command is what its store may do, faults being failures. -/
theorem handle_may (s : Session) (c : Command) :
    s.store.May c (handle c s).1 (handle c s).2.store := by
  cases c with
  | begin =>
    rw [handle_begin]
    split
    · exact Or.inr ⟨⟨_, rfl⟩, rfl⟩
    · exact Or.inl ⟨rfl, rfl⟩
  | call tx c =>
    rw [handle_call]
    split
    · exact Or.inr ⟨⟨_, rfl⟩, rfl⟩
    · exact Or.inl rfl
  | commit tx =>
    rw [handle_commit]
    split
    · exact Or.inr ⟨⟨_, rfl⟩, rfl⟩
    · exact Or.inl ⟨rfl, rfl⟩
  | drop tx => exact Or.inl rfl
  | deliver e => exact Or.inl rfl

end Session
end LoanDesk
