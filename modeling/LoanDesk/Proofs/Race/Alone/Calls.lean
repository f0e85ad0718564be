/-
# A transaction by itself

Where nobody else is at work and no row is locked, each call gives what the book of the transaction
has for it, with all rows free (`Program.Alone.call`). A bracket then leaves the rows that its body
leaves in the book (`Program.alone_bracket`).
-/

import LoanDesk.Proofs.Race.Encounter

namespace LoanDesk

/-- Every row stands under its own number, and none is locked. -/
structure Store.Still (s : Store) : Prop where
  keyed : s.rows.Keyed
  unlocked : ∀ key, s.locks.holder? key = none

/-- Where no transaction is open no row is locked. -/
theorem Store.Orderly.still {s : Store} (h : s.Orderly) (hopened : s.opened = .empty)
    (hk : s.rows.Keyed) : s.Still where
  keyed := hk
  unlocked key := by
    cases hlock : s.locks.holder? key with
    | none => rfl
    | some tx =>
      have hopen := h.held key tx hlock
      rw [Store.IsOpen, hopened] at hopen
      cases hopen

/-- A program by itself, where no operation of the store fails. -/
def Store.alone : Setting Store where
  others s t := t = s
  own := Store.Does
  fair _ _ _ := True
  refl _ := rfl
  trans h₁ h₂ := h₂.trans h₁

/-- What a program ensures by itself it does in a session. -/
theorem Session.run_alone {α : Type} {Q : α → Store → Prop} : ∀ (p : Program α) (s : Session),
    s.faults = [] → Program.Ensures Store.alone Q p s.store →
      Q (Session.run p s).1 (Session.run p s).2.store ∧ (Session.run p s).2.faults = []
  | .done _, _, hf, h => ⟨h _ rfl, hf⟩
  | .step c next, s, hf, h => by
    obtain ⟨hdoes, hfaults⟩ := s.handle_does hf c
    exact run_alone (next (Session.handle c s).1) (Session.handle c s).2 hfaults
      (h _ rfl _ _ hdoes).2

namespace Program

variable {α β ε : Type} {blame : StoreError → ε} {tx : TxId} {b b' : Book} {s t : Store}

/-- Nobody else holds a row, and the transaction sees the book. -/
structure Solo (tx : TxId) (b : Book) (s : Store) : Prop where
  book : s.book tx = b
  keyed : (s.view tx).Keyed
  locks : ∀ key holder, s.locks.holder? key = some holder → holder = tx

/-- A transaction that begins where no row is locked sees what is stored. -/
theorem solo_begin (hs : s.Still) : Solo s.begin.1 s.stored s.begin.2 := by
  have hbook := s.book_begin
  refine ⟨hbook, ?_, fun key holder hh => ?_⟩
  · rw [show s.begin.2.view s.begin.1 = s.rows from congrArg Book.rows hbook]
    exact hs.keyed
  · rw [show s.begin.2.locks.holder? key = none from hs.unlocked key] at hh
    cases hh

/-- The program goes on by itself, and does not fail. -/
abbrev Alone (Q : α → Store → Prop) (m : ExceptT ε Program α) (s : Store) : Prop :=
  Brings Store.alone Q (fun _ _ => False) m s

/-- A result is given, and nothing is done. -/
theorem alone_pure {Q : α → Store → Prop} {a : α} (h : Q a s) :
    Alone Q (pure a : ExceptT ε Program α) s := by
  rintro t rfl
  exact h

/-- All rows are free to a transaction beside which nobody holds one. -/
theorem Solo.isFree (hs : Solo tx b s) : s.locks.isFree tx = fun _ => true := by
  funext key
  unfold Locks.isFree
  cases hk : s.locks.holder? key with
  | none => rfl
  | some holder => simp [hs.locks key holder hk]

/-- After a call nobody else holds a row either. -/
theorem Solo.step (hs : Solo tx b s) (c : Call) (hb : (s.perform tx c).2.book tx = b')
    (hk : ((s.perform tx c).2.view tx).Keyed) : Solo tx b' (s.perform tx c).2 where
  book := hb
  keyed := hk
  locks key holder hh := by
    by_contra hne
    exact hne (hs.locks key holder (((Store.perform_frame s tx c).locks key holder hne).1 hh))

/-- A call gives what the book has for it. -/
theorem Alone.call {c : Call} {a : c.Answer} (hs : Solo tx b s)
    (h : b.perform (fun _ => true) c = .ok (a, b')) :
    Alone (fun x t => x = a ∧ Solo tx b' t) (Program.ask blame tx c) s := by
  have hbook : (s.book tx).perform (s.locks.isFree tx) c = .ok (a, b') := by
    rw [hs.isFree, hs.book]
    exact h
  obtain ⟨u, hperform, hu, hk⟩ := Store.perform_of_book hs.keyed hbook
  refine Brings.ask ?_
  rintro t rfl x v hv
  obtain ⟨rfl, rfl⟩ := Prod.mk.inj ((show (x, v) = t.perform tx c from hv).trans hperform)
  refine ⟨trivial, ?_⟩
  rintro w rfl
  have hw : w = (t.perform tx c).2 := by rw [hperform]
  subst hw
  exact ⟨rfl, hs.step c hu hk⟩

/-- A call, and what follows on its answer. -/
theorem Alone.ask {Q : β → Store → Prop} {c : Call} {a : c.Answer}
    {f : c.Answer → ExceptT ε Program β} (hs : Solo tx b s)
    (h : b.perform (fun _ => true) c = .ok (a, b')) (hf : ∀ t, Solo tx b' t → Alone Q (f a) t) :
    Alone Q (Program.ask blame tx c >>= f) s := by
  refine Brings.bind (Alone.call hs h) ?_
  rintro x t ⟨rfl, ht⟩
  exact hf t ht

/-- What follows a program that does not fail. -/
theorem Alone.after {P : α → Store → Prop} {Q : β → Store → Prop} {m : ExceptT ε Program α}
    {f : Except ε α → Program β} (hm : Alone P m s)
    (hf : ∀ a t, P a t → Ensures Store.alone Q (f (.ok a)) t) :
    Ensures Store.alone Q (m.run.bind f) s := by
  refine Ensures.bind (fun x t ht => ?_) hm
  cases x with
  | error e => exact (ht t rfl).elim
  | ok a => exact hf a t (ht t rfl)

/-- Telling of something changes nothing. -/
theorem alone_tell {Q : β → Store → Prop} (e : Event) (f : Option String → β)
    (h : ∀ x, Q (f x) s) : Alone Q (do return f (← Desk.deliver e) : Desk.Action β) s := by
  rintro t rfl x u hu
  obtain rfl : u = t := hu
  refine ⟨trivial, ?_⟩
  cases x <;> exact fun v hv => by rw [hv]; exact h _

/-- **A bracket by itself** leaves the rows of the book that its body leaves, and no row is
locked. -/
theorem alone_bracket {Q : α → Rows → Prop} {body : TxId → ExceptT ε Program α}
    (hs : s.Still) (h : ∀ tx t, Solo tx s.stored t →
      Alone (fun a u => ∃ b, Solo tx b u ∧ Q a b.rows) (body tx) t) :
    Alone (fun a t => Q a t.rows ∧ t.Still) (bracket blame (fun _ => true) body) s := by
  unfold Alone Brings
  rw [bracket_run]
  rintro t rfl x u ⟨rfl, rfl⟩
  refine ⟨trivial, ?_⟩
  refine (h _ _ (solo_begin hs)).after fun a v ⟨b, hb, hq⟩ => ?_
  rintro w rfl y z ⟨rfl, rfl⟩
  refine ⟨trivial, ?_⟩
  rintro z rfl
  have hrows : (w.commit t.begin.1).rows = b.rows := congrArg Book.rows hb.book
  refine ⟨by rw [hrows]; exact hq, ?_, fun key => ?_⟩
  · rw [hrows, ← hb.book]
    exact hb.keyed
  · cases hh : (w.commit t.begin.1).locks.holder? key with
    | none => rfl
    | some holder =>
      change (w.locks.release t.begin.1).holder? key = some holder at hh
      rw [Locks.holder?_release, Option.filter_eq_some_iff] at hh
      exact absurd (hb.locks key holder hh.1) (by simpa using hh.2)

end Program

end LoanDesk
