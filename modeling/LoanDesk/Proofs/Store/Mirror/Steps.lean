/-
# Steps of a call and their counterparts on the book

The calls of a transaction are made of few kinds of steps: it looks at what it sees, takes locks,
takes a number, and stages a change. `Store.Mirrors` says that a step gives on every store what its
counterpart gives on the book of the transaction, and the lemmas here put steps together in that
sense.
-/

import LoanDesk.Proofs.Store.Book

namespace LoanDesk
namespace Store

variable {tx : TxId} {α β : Type}

/-- An outcome in a store is an outcome on the book: the same answer or error, and after an answer
the transaction sees the book, with the same rows free to it as before. -/
def Agrees (tx : TxId) (free : RowKey → Bool) :
    Except StoreError α × Store → Except StoreError (α × Book) → Prop
  | (.ok a, t), .ok (a', b) =>
    a = a' ∧ t.book tx = b ∧ t.locks.isFree tx = free ∧ b.rows.Keyed
  | (.error e, _), .error e' => e = e'
  | _, _ => False

/-- The step gives what `φ` gives on the book of the transaction. -/
def Mirrors (tx : TxId) (m : Act α) (φ : (RowKey → Bool) → Book → Except StoreError (α × Book)) :
    Prop :=
  ∀ s : Store, (s.view tx).Keyed → Agrees tx (s.locks.isFree tx) (m s)
    (φ (s.locks.isFree tx) (s.book tx))

/-- The step gives what `x` gives on the book, which it leaves as it is. -/
def Checks (tx : TxId) (m : Act α) (x : (RowKey → Bool) → Book → Except StoreError α) : Prop :=
  Mirrors tx m fun free b => (x free b).map fun a => (a, b)

/-- Giving a value gives it on the book, too. -/
theorem mirrors_pure (a : α) : Mirrors tx (pure a) fun _ b => .ok (a, b) :=
  fun _ hk => ⟨rfl, rfl, rfl, hk⟩

/-- What two steps give one after the other is what their counterparts give one after the other. -/
theorem Mirrors.bind {m : Act α} {f : α → Act β}
    {φ : (RowKey → Bool) → Book → Except StoreError (α × Book)}
    {ψ : α → (RowKey → Bool) → Book → Except StoreError (β × Book)}
    (hm : Mirrors tx m φ) (hf : ∀ a, Mirrors tx (f a) (ψ a)) :
    Mirrors tx (m >>= f) fun free b => φ free b >>= fun x => ψ x.1 free x.2 := by
  intro s hk
  have hs := hm s hk
  rw [bind_apply]
  dsimp only
  generalize m s = x at hs ⊢
  generalize φ (s.locks.isFree tx) (s.book tx) = y at hs ⊢
  obtain ⟨r, t⟩ := x
  cases r with
  | ok a =>
    cases y with
    | ok ab =>
      obtain ⟨rfl, hb, hfree, hkeyed⟩ := hs
      have ht := hf ab.1 t (by rw [← hb] at hkeyed; exact hkeyed)
      rw [hfree, hb] at ht
      exact ht
    | error e => exact hs.elim
  | error e =>
    cases y with
    | ok ab => exact hs.elim
    | error e' => exact hs

/-- After a step that leaves the book as it is, what follows is on the same book. -/
theorem Checks.bind {m : Act α} {f : α → Act β}
    {x : (RowKey → Bool) → Book → Except StoreError α}
    {ψ : α → (RowKey → Bool) → Book → Except StoreError (β × Book)}
    (hm : Checks tx m x) (hf : ∀ a, Mirrors tx (f a) (ψ a)) :
    Mirrors tx (m >>= f) fun free b => x free b >>= fun a => ψ a free b := by
  intro s hk
  have hs := Mirrors.bind hm hf s hk
  dsimp only at hs ⊢
  cases hx : x (s.locks.isFree tx) (s.book tx) with
  | ok a => rwa [hx] at hs
  | error e => rwa [hx] at hs

/-- A step that leaves the book as it is gives its answer with that book. -/
theorem Checks.mirrors {m : Act α} {x : (RowKey → Bool) → Book → Except StoreError α}
    (hm : Checks tx m x) : Mirrors tx m fun free b => x free b >>= fun a => .ok (a, b) := by
  intro s hk
  have hs := hm s hk
  dsimp only at hs ⊢
  cases hx : x (s.locks.isFree tx) (s.book tx) with
  | ok a => rwa [hx] at hs
  | error e => rwa [hx] at hs

/-- Reading what the transaction sees is reading the rows of its book. -/
theorem checks_asks (f : Rows → α) :
    Checks tx (asks fun s => f (s.view tx)) fun _ b => .ok (f b.rows) :=
  fun _ hk => ⟨rfl, rfl, rfl, hk⟩

/-- Raising an error raises it on the book, too. -/
theorem checks_throw (e : StoreError) : Checks tx (throw e : Act α) fun _ _ => .error e :=
  fun _ _ => rfl

/-- A row that is missing is missing on the book, too. -/
theorem checks_orError (e : StoreError) (a? : Option α) :
    Checks tx (orError e a?) fun _ _ => Book.found e a? := by
  cases a? with
  | none => exact checks_throw e
  | some a => exact mirrors_pure a

/-- What is looked up in the rows that are seen is looked up in the book. -/
theorem checks_lookup (e : StoreError) (f : Rows → Option α) :
    Checks tx (asks (fun s => f (s.view tx)) >>= orError e) fun _ b => Book.found e (f b.rows) := by
  intro s hk
  exact checks_orError e (f (s.view tx)) s hk

/-- Reading a request is reading it in the book. -/
theorem checks_request (id : Int) : Checks tx (request tx id) fun _ b => b.request id :=
  checks_lookup _ fun rows => rows.requests.get? id

/-- A counterpart may be replaced by one that gives the same wherever rows stand under their own
numbers. -/
theorem Mirrors.congr {m : Act α} {φ ψ : (RowKey → Bool) → Book → Except StoreError (α × Book)}
    (hm : Mirrors tx m φ) (h : ∀ free b, b.rows.Keyed → φ free b = ψ free b) : Mirrors tx m ψ := by
  intro s hk
  rw [← h _ (s.book tx) hk]
  exact hm s hk

/-! ### Numbers, locks and staged changes -/

/-- Taking a number is counting on in the book. -/
theorem mirrors_takeId : Mirrors tx takeId fun _ b => .ok (b.last + 1, ⟨b.rows, b.last + 1⟩) :=
  fun _ hk => ⟨rfl, rfl, rfl, hk⟩

/-- Taking rows that are free leaves the same rows free to the transaction. -/
theorem isFree_foldl_take {l : Locks} {keys : List RowKey} (h : keys.all (l.isFree tx)) :
    (keys.foldl (·.take tx) l).isFree tx = l.isFree tx := by
  funext key
  rw [Bool.eq_iff_iff, Locks.isFree_iff, Locks.isFree_iff, Locks.holder?_foldl_take]
  split
  · rename_i hkey
    have hfree := Locks.isFree_iff.1 (List.all_eq_true.1 h key hkey)
    exact ⟨fun _ => hfree, fun _ holder hh => (Option.some.inj hh).symm⟩
  · exact Iff.rfl

/-- Locks go to a transaction where all rows are free to it, and it sees what it saw. -/
theorem tryLock_cases (s : Store) (tx : TxId) (keys : List RowKey) :
    (keys.all (s.locks.isFree tx) = true ∧ ∃ t, s.tryLock tx keys = some t ∧
      t.book tx = s.book tx ∧ t.locks.isFree tx = s.locks.isFree tx) ∨
    (keys.all (s.locks.isFree tx) = false ∧ s.tryLock tx keys = none) := by
  unfold tryLock
  cases h : keys.all (s.locks.isFree tx) with
  | true => exact Or.inl ⟨rfl, _, rfl, rfl, isFree_foldl_take h⟩
  | false => exact Or.inr ⟨rfl, rfl⟩

/-- Rows are locked and then more is done, which sees what was seen before. -/
theorem agrees_lockOr {s : Store} {keys : List RowKey} {e : StoreError} {m : Act β}
    {y : Except StoreError (β × Book)}
    (h : ∀ t : Store, t.book tx = s.book tx → t.locks.isFree tx = s.locks.isFree tx →
      Agrees tx (s.locks.isFree tx) (m t) y) :
    Agrees tx (s.locks.isFree tx) ((lockOr tx keys e >>= fun _ => m) s)
      (Book.demand (s.locks.isFree tx) keys e >>= fun _ => y) := by
  rw [bind_apply, lockOr_apply]
  unfold Book.demand
  rcases tryLock_cases s tx keys with ⟨hall, t, ht, hbook, hfree⟩ | ⟨hall, ht⟩
  · rw [ht, if_pos hall]
    exact h t hbook hfree
  · rw [ht, if_neg (by simp [hall])]
    exact rfl

/-- Locking rows is demanding in the book that they are free. -/
theorem checks_lockOr (keys : List RowKey) (e : StoreError) :
    Checks tx (lockOr tx keys e) fun free _ => Book.demand free keys e := by
  intro s hk
  rw [lockOr_apply]
  dsimp only
  unfold Book.demand
  rcases tryLock_cases s tx keys with ⟨hall, t, ht, hbook, hfree⟩ | ⟨hall, ht⟩
  · rw [ht, if_pos hall]
    exact ⟨rfl, hbook, hfree, hk⟩
  · rw [ht, if_neg (by simp [hall])]
    exact rfl

/-- What is staged is seen in the book at once. -/
theorem book_stage (s : Store) (tx : TxId) (f : Changes → Changes) :
    (s.stage tx f).book tx = ⟨s.rows.overlay (f (s.changes tx)), s.lastId⟩ := by
  simp [book, view, changes, stage, Table.get?_insert]

/-- Staging a change is making it in the rows of the book. -/
theorem mirrors_stages {f : Changes → Changes} {g : Rows → Rows}
    (hfg : ∀ (rows : Rows) c, rows.overlay (f c) = g (rows.overlay c))
    (hg : ∀ rows : Rows, rows.Keyed → (g rows).Keyed) :
    Mirrors tx (stages tx f) fun _ b => .ok ((), ⟨g b.rows, b.last⟩) := by
  intro s hk
  refine ⟨rfl, ?_, rfl, hg _ hk⟩
  change (s.stage tx f).book tx = _
  rw [book_stage, hfg]
  rfl

/-- Writing a request is putting it into the book, if it is free. -/
theorem mirrors_writeRequest (r : Request) : Mirrors tx (writeRequest tx r) fun free b =>
    Book.demand free [.request r.id] (.locked "request" r.id) >>= fun _ =>
      .ok ((), { b with rows := b.rows.putRequest r }) :=
  (checks_lockOr _ _).bind fun _ => mirrors_stages
    (fun rows c => by simp [Rows.overlay, Rows.putRequest, Table.overlay_insert_some])
    fun _ h => h.putRequest r

/-- Writing a line is putting it into the book, if it is free. -/
theorem mirrors_writeLine (l : Line) : Mirrors tx (writeLine tx l) fun free b =>
    Book.demand free [.line l.id] (.locked "offer interest" l.id) >>= fun _ =>
      .ok ((), { b with rows := b.rows.putLine l }) :=
  (checks_lockOr _ _).bind fun _ => mirrors_stages
    (fun rows c => by simp [Rows.overlay, Rows.putLine, Table.overlay_insert_some])
    fun _ h => h.putLine l

end Store
end LoanDesk
