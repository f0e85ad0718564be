/-
# A task amid the locks of others

While a task is at work others may hold rows. A call of the task fails then where it needs a row that
somebody else holds, so whether a body goes through is a matter of its book and of the rows that are
free. `Program.Amid` follows bodies on books, with what they give and how they fail.

Where the store of a session works, a bracket either leaves the rows that its body leaves, or it
fails as its body does and leaves the rows as they were (`Session.Works.bracket`). Nobody else
notices: locks and open transactions are as before (`Session.Aside`).
-/

import LoanDesk.Proofs.Race.Alone

namespace LoanDesk

/-- Nobody holds the row. -/
def Store.isFree (s : Store) (key : RowKey) : Bool := (s.locks.holder? key).isNone

/-- What is free to a transaction that begins is what nobody holds. -/
theorem Store.isFree_begin {s : Store} (h : s.Orderly) :
    s.begin.2.locks.isFree s.begin.1 = s.isFree := by
  funext key
  change s.locks.isFree (s.lastTx + 1) key = (s.locks.holder? key).isNone
  unfold Locks.isFree
  cases hheld : s.locks.holder? key with
  | none => rfl
  | some holder =>
    have hle : holder ≤ s.lastTx := h.numbered holder (h.held key holder hheld)
    exact beq_eq_false_iff_ne.2 (Int.ne_of_lt (Int.lt_add_one_of_le hle))

namespace Book

/-- What a call answers on a book where just some rows are free. -/
def Answers (free : RowKey → Bool) (b : Book) : (c : Command) → c.Answer → Book → Prop
  | .call _ c, .ok a, b' => b.perform free c = .ok (a, b')
  | .call _ c, .error e, b' => b.perform free c = .error e ∧ b' = b
  | _, _, _ => False

/-- A book where just some rows are free, and where nobody else moves on. -/
def amid (free : RowKey → Bool) : Setting Book where
  others b b' := b' = b
  own := Answers free
  fair _ _ _ := True
  refl _ := rfl
  trans h₁ h₂ := h₂.trans h₁

end Book

namespace Program

variable {α β ε : Type} {blame : StoreError → ε} {tx : TxId} {free : RowKey → Bool} {b b' : Book}

/-- On a book where just some rows are free, what the program gives satisfies one condition and its
errors another. -/
abbrev Amid (free : RowKey → Bool) (Q : α → Book → Prop) (E : ε → Prop) (m : ExceptT ε Program α)
    (b : Book) : Prop :=
  Brings (Book.amid free) Q (fun e _ => E e) m b

section Amid

variable {Q : α → Book → Prop} {E : ε → Prop}

/-- A result is given, and the book stays. -/
theorem amid_pure {a : α} (h : Q a b) : Amid free Q E (pure a) b := by
  rintro _ rfl
  exact h

/-- A call that gives an answer. -/
theorem amid_call {c : Call} {a : c.Answer} {Q : c.Answer → Book → Prop}
    (h : b.perform free c = .ok (a, b')) (hq : Q a b') :
    Amid free Q E (Program.ask blame tx c) b := by
  refine Brings.ask ?_
  rintro d rfl x u hu
  refine ⟨trivial, ?_⟩
  cases x with
  | ok x =>
    have hx : d.perform free c = .ok (x, u) := hu
    rw [h] at hx
    obtain ⟨rfl, rfl⟩ := Prod.mk.inj (Except.ok.inj hx)
    rintro _ rfl
    exact hq
  | error e =>
    have hx : d.perform free c = .error e := hu.1
    rw [h] at hx
    cases hx

/-- A call that fails. -/
theorem amid_refused {c : Call} {e : StoreError} {Q : c.Answer → Book → Prop}
    (h : b.perform free c = .error e) (he : E (blame e)) :
    Amid free Q E (Program.ask blame tx c) b := by
  refine Brings.ask ?_
  rintro d rfl x u hu
  refine ⟨trivial, ?_⟩
  cases x with
  | ok x =>
    have hx : d.perform free c = .ok (x, u) := hu
    rw [h] at hx
    cases hx
  | error e' =>
    have hx : d.perform free c = .error e' := hu.1
    rw [h] at hx
    cases hx
    exact fun _ _ => he

/-- A call that gives an answer, and what follows on it. -/
theorem Amid.ask {c : Call} {a : c.Answer} {f : c.Answer → ExceptT ε Program α}
    (h : b.perform free c = .ok (a, b')) (hf : Amid free Q E (f a) b') :
    Amid free Q E (Program.ask blame tx c >>= f) b :=
  Brings.bind (amid_call (Q := fun x d => x = a ∧ d = b') h ⟨rfl, rfl⟩) fun x d ⟨hx, hd⟩ => by
    rw [hx, hd]
    exact hf

/-- A call that fails ends the body. -/
theorem Amid.refused {c : Call} {e : StoreError} {f : c.Answer → ExceptT ε Program α}
    (h : b.perform free c = .error e) (he : E (blame e)) :
    Amid free Q E (Program.ask blame tx c >>= f) b :=
  Brings.bind (amid_refused (Q := fun _ _ => False) h he) fun _ _ hfalse => hfalse.elim

end Amid

/-! ### From books to stores -/

/-- The transaction sees the book, the rows that are free to it are known, and what is stored has not
changed. -/
structure Seated (free : RowKey → Bool) (rows : Rows) (tx : TxId) (s : Store) (b : Book) : Prop where
  book : s.book tx = b
  keyed : b.rows.Keyed
  free : s.locks.isFree tx = free
  rows : s.rows = rows

/-- What a body gives on books it gives in a transaction, if the same rows are free. -/
theorem image_amid (free : RowKey → Bool) (rows : Rows) (tx : TxId) :
    Image Store.alone (Book.amid free) tx (Seated free rows tx) (fun s => s.rows = rows) where
  others {s b t} hs ht := by
    have ht : t = s := ht
    exact ⟨b, rfl, by rwa [ht]⟩
  ok {s b c a t} hs h := by
    have hp : s.perform tx c = (.ok a, t) := Eq.symm h
    have hview : (s.view tx).Keyed := by
      have hkeyed := hs.keyed
      rwa [← hs.book] at hkeyed
    obtain ⟨hbook, hfree, hkeyed⟩ := Store.perform_ok hview hp
    rw [hs.book, hs.free] at hbook
    refine ⟨trivial, t.book tx, hbook, rfl, hkeyed, hfree.trans hs.free, ?_⟩
    have hrows := s.rows_perform tx c
    rw [hp] at hrows
    exact hrows.trans hs.rows
  error {s b c e t} hs h := by
    have hp : s.perform tx c = (.error e, t) := Eq.symm h
    have hview : (s.view tx).Keyed := by
      have hkeyed := hs.keyed
      rwa [← hs.book] at hkeyed
    have hbook := Store.perform_error hview hp
    rw [hs.book, hs.free] at hbook
    have hrows := s.rows_perform tx c
    rw [hp] at hrows
    exact ⟨trivial, ⟨b, hbook, rfl⟩, hrows.trans hs.rows⟩
  weak_of_sim hs := hs.rows
  weak_others hs ht := by rwa [show _ = _ from ht]

/-- A transaction that begins sees what is stored, and what is free is free to it. -/
theorem seated_begin {s : Store} (hs : s.Orderly) (hk : s.rows.Keyed) :
    Seated s.isFree s.rows s.begin.1 s.begin.2 s.stored :=
  ⟨s.book_begin, hk, Store.isFree_begin hs, rfl⟩

/-- How a bracket ends: with what its body gives, and with the rows that its body leaves if they are
kept, or with an error and the rows as they were. -/
def Ends (keep : α → Bool) (Q : α → Book → Prop) (E : ε → Prop) (rows : Rows) :
    Except ε α → Rows → Prop
  | .ok a, rows' => ∃ b, Q a b ∧ rows' = if keep a then b.rows else rows
  | .error e, rows' => E e ∧ rows' = rows

/-- A bracket amid the locks of others ends as its body does on the book that is stored. -/
theorem bracket_ends (blame : StoreError → ε) (keep : α → Bool)
    {body : TxId → ExceptT ε Program α} {Q : α → Book → Prop} {E : ε → Prop} {s : Store}
    (hs : s.Orderly) (hk : s.rows.Keyed) (hw : ∀ tx, Within tx (body tx))
    (hq : ∀ tx, Amid s.isFree Q E (body tx) s.stored) :
    Ensures Store.alone (fun x t => t.rows.Keyed ∧ Ends keep Q E s.rows x t.rows)
      (bracket blame keep body).run s := by
  rw [bracket_run]
  rintro t rfl x u ⟨rfl, rfl⟩
  refine ⟨trivial, ?_⟩
  have hbody := (image_amid t.isFree t.rows t.begin.1).ensures (hw _) (seated_begin hs hk) (hq _)
  refine Ensures.bind (fun r v hr => ?_) hbody
  cases r with
  | error e =>
    obtain ⟨hrows, he⟩ := hr v rfl
    rintro w rfl y z rfl
    refine ⟨trivial, ?_⟩
    rintro _ rfl
    have hrows : (w.drop t.begin.1).rows = t.rows := hrows
    exact ⟨by rw [hrows]; exact hk, he, hrows⟩
  | ok a =>
    obtain ⟨b, hb, hqa⟩ := hr v rfl
    change Ensures _ _ (if keep a then _ else _) _
    split
    · rename_i hkeep
      rintro w rfl y z ⟨rfl, rfl⟩
      refine ⟨trivial, ?_⟩
      rintro _ rfl
      have hrows : (w.commit t.begin.1).rows = b.rows := congrArg Book.rows hb.book
      exact ⟨by rw [hrows]; exact hb.keyed, b, hqa, by rw [if_pos hkeep, hrows]⟩
    · rename_i hkeep
      rintro w rfl y z rfl
      refine ⟨trivial, ?_⟩
      rintro _ rfl
      have hrows : (w.drop t.begin.1).rows = t.rows := hb.rows
      exact ⟨by rw [hrows]; exact hk, b, hqa, by rw [if_neg hkeep, hrows]⟩

end Program

/-! ### Sessions -/

namespace Session

/-- No operation of the store fails, and the store is in order. -/
structure Works (s : Session) : Prop where
  faults : s.faults = []
  orderly : s.store.Orderly
  keyed : s.store.rows.Keyed

/-- The store still works, and the transactions and locks of others are as they were. -/
structure Aside (s t : Session) : Prop where
  works : t.Works
  locks : t.store.locks = s.store.locks
  opened : t.store.opened = s.store.opened
  lastId : s.store.lastId ≤ t.store.lastId

namespace Aside

variable {s t u : Session}

/-- What is aside twice is aside. -/
theorem trans (h₁ : Aside s t) (h₂ : Aside t u) : Aside s u :=
  ⟨h₂.works, h₂.locks.trans h₁.locks, h₂.opened.trans h₁.opened, Int.le_trans h₁.lastId h₂.lastId⟩

/-- The same rows are free. -/
theorem isFree (h : Aside s t) : t.store.isFree = s.store.isFree := by
  funext key
  rw [Store.isFree, Store.isFree, h.locks]

/-- A mailbox is nothing to the store. -/
theorem mailbox (h : Aside s t) (m : Mailbox) : Aside s { t with mailbox := m } :=
  ⟨⟨h.works.faults, h.works.orderly, h.works.keyed⟩, h.locks, h.opened, h.lastId⟩

end Aside

namespace Works

open Program

variable {α ε : Type} {s : Session}

/-- A program that ends its transactions leaves the others aside, if it stores every row under its
number. -/
theorem aside {p : Program α} (hs : s.Works) (hp : Tidy [] [] p)
    (hf : (Session.run p s).2.faults = []) (hk : (Session.run p s).2.store.rows.Keyed) :
    Aside s (Session.run p s).2 := by
  have hruns := runs_run p s
  obtain ⟨hlocks, hopened, hid, -⟩ := hruns.restores hp hs.orderly
  have horderly := (hruns.besides hs.orderly hp (.refl hs.orderly)).orderly
  exact ⟨⟨hf, horderly, hk⟩, hlocks, hopened, hid⟩

section Bracket

variable (blame : StoreError → ε) (keep : α → Bool) {body : TxId → ExceptT ε Program α}
  {Q : α → Book → Prop} {E : ε → Prop}

/-- **A bracket either leaves what its body leaves, or fails and changes nothing.** -/
theorem bracket (hs : s.Works) (hw : ∀ tx, Within tx (body tx))
    (hq : ∀ tx, Amid s.store.isFree Q E (body tx) s.store.stored) :
    ∃ x t, Session.run (Program.bracket blame keep body).run s = (x, t) ∧ Aside s t ∧
      Ends keep Q E s.store.rows x t.store.rows := by
  obtain ⟨⟨hkeyed, hends⟩, hfaults⟩ := run_alone _ s hs.faults
    (bracket_ends blame keep hs.orderly hs.keyed hw hq)
  exact ⟨_, _, rfl,
    hs.aside (tidy_bracket fun tx _ => (hw tx).tidy List.mem_cons_self) hfaults hkeyed, hends⟩

/-- A bracket whose body goes through. -/
theorem bracket_ok (hs : s.Works) (hw : ∀ tx, Within tx (body tx))
    (hq : ∀ tx, Amid s.store.isFree Q (fun _ => False) (body tx) s.store.stored) :
    ∃ a b t, Session.run (Program.bracket blame keep body).run s = (.ok a, t) ∧ Aside s t ∧ Q a b ∧
      t.store.rows = if keep a then b.rows else s.store.rows := by
  obtain ⟨x, t, hrun, haside, hends⟩ := hs.bracket blame keep hw hq
  cases x with
  | error e => exact hends.1.elim
  | ok a => exact hends.elim fun b hb => ⟨a, b, t, hrun, haside, hb⟩

/-- A bracket whose body fails. -/
theorem bracket_error (hs : s.Works) (hw : ∀ tx, Within tx (body tx))
    (hq : ∀ tx, Amid s.store.isFree (fun _ _ => False) E (body tx) s.store.stored) :
    ∃ e t, Session.run (Program.bracket blame keep body).run s = (.error e, t) ∧ Aside s t ∧ E e ∧
      t.store.rows = s.store.rows := by
  obtain ⟨x, t, hrun, haside, hends⟩ := hs.bracket blame keep hw hq
  cases x with
  | error e => exact ⟨e, t, hrun, haside, hends⟩
  | ok a => exact hends.elim fun _ hb => hb.1.elim

end Bracket

/-- An action that only tells of something succeeds, and nothing that is stored changes. -/
theorem tell {P : List Event → α → Prop} {m : ExceptT ε Program α} (hs : s.Works)
    (hm : Telling P m) : ∃ a t, Session.run m.run s = (.ok a, t) ∧ Aside s t ∧
      t.store.rows = s.store.rows ∧ P (dispatched m.run s) a := by
  have hruns := runs_run m.run s
  have hfaults := faults_run m.run s hs.faults
  have haside := hs.aside (hm.ordered fun _ _ => True).tidy hfaults
  generalize Session.run m.run s = x at *
  obtain ⟨e | a, t⟩ := x
  · exact absurd hruns hm.unfailing
  · obtain ⟨hrows, hP⟩ := hm.told hruns
    exact ⟨a, t, rfl, haside (by rw [hrows]; exact hs.keyed), hrows, hP⟩

/-- A record is added under a new number. -/
theorem writeRecord (hs : s.Works) (e : JobEntry) (now : Instant) :
    ∃ n t, Session.run (Jobs.writeRecord e now) s = (some n, t) ∧ Aside s t ∧
      s.store.lastId < n ∧ t.store.rows = s.store.rows.putJob (e.toRecord n now) := by
  have hwithin (tx : TxId) : Within tx (Jobs.ask tx (.createJob e now)) := within_ask _ _
  have hentry (tx : TxId) : Amid s.store.isFree
      (fun j b => j = e.toRecord (s.store.lastId + 1) now ∧ b.rows = s.store.rows.putJob j)
      (fun _ => False) (Jobs.ask tx (.createJob e now)) s.store.stored :=
    amid_call (Book.createJob_eq_ok.2 ⟨rfl, rfl⟩) ⟨rfl, rfl⟩
  obtain ⟨_, b, t, hrun, haside, ⟨rfl, hb⟩, hrows⟩ :=
    hs.bracket_ok id (fun _ => true) hwithin hentry
  have hwrite : Session.run (Jobs.writeRecord e now) s = Session.run _ _ := Session.run_bind _ _ s
  rw [hrun] at hwrite
  exact ⟨_, t, hwrite, haside, Int.lt_succ _, hrows.trans hb⟩

end Works

/-- A record is added after what was done before. -/
theorem Aside.writeRecord {s t : Session} (h : Aside s t) (e : JobEntry) (now : Instant) :
    ∃ n u, Session.run (Jobs.writeRecord e now) t = (some n, u) ∧ Aside s u ∧
      s.store.lastId < n ∧ u.store.rows = t.store.rows.putJob (e.toRecord n now) := by
  obtain ⟨n, u, hrun, haside, hn, hrows⟩ := h.works.writeRecord e now
  exact ⟨n, u, hrun, h.trans haside, Int.lt_of_le_of_lt h.lastId hn, hrows⟩

end Session
end LoanDesk
