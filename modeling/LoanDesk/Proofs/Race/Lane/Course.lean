/-
# Several programs that compete for a request

Several programs are under way in one store, and each of them would lock a request before it commits
anything. Whoever commits first wins; the others see the rows that the winner left, or find the
request locked (`Course`).

A *lane* is one of the programs in the middle: its open transactions, the store, and who has won. Its
transaction has done nothing but look, or holds the request, or is beaten; none of this is changed by
what the others do.
-/

import LoanDesk.Proofs.Program.Steps
import LoanDesk.Proofs.Program.Ensures
import LoanDesk.Proofs.Store.Mirror

namespace LoanDesk

/-- One of several programs in the middle: its open transactions, the store, and who has won. -/
structure Lane (ι : Type) where
  mine : List TxId
  store : Store
  winner : Option ι

/-- A request to compete for, the book at the start, and the rows that each program would leave. -/
structure Course (ι : Type) where
  request : Int
  start : Book
  finish : ι → Rows

/-- The first to commit wins. -/
def Command.wins {ι : Type} (i : ι) (winner : Option ι) : Command → Option ι
  | .commit _ => some i
  | .begin | .call _ _ | .drop _ | .deliver _ => winner

namespace Course

variable {ι : Type} (C : Course ι)

/-- The stored rows, before and after somebody has won. -/
def rows : Option ι → Rows
  | none => C.start.rows
  | some i => C.finish i

/-- The transaction that holds the request. -/
def holder? (ℓ : Lane ι) : Option TxId := ℓ.store.locks.holder? (.request C.request)

/-- What holds in every state: nobody has a lock but the holder of the request, and numbers are
taken under that lock only. -/
structure Fit (ℓ : Lane ι) : Prop where
  orderly : ℓ.store.Orderly
  isOpen : ∀ tx ∈ ℓ.mine, ℓ.store.IsOpen tx
  rows : ℓ.store.rows = C.rows ℓ.winner
  locked : ∀ key tx, ℓ.store.locks.holder? key = some tx → C.holder? ℓ = some tx
  last : ℓ.winner = none → C.holder? ℓ = none → ℓ.store.lastId = C.start.last

/-- Somebody has won, or holds the request and will. -/
def Decided (ℓ : Lane ι) : Prop := ℓ.winner ≠ none ∨ C.holder? ℓ ≠ none

/-- Nothing was committed and no number taken. -/
structure Same (ℓ m : Lane ι) : Prop where
  rows : m.store.rows = ℓ.store.rows
  lastId : m.store.lastId = ℓ.store.lastId
  winner : m.winner = ℓ.winner

/-- What every step leaves as it is, whoever makes it. -/
structure Onward (ℓ m : Lane ι) : Prop where
  winner : ℓ.winner ≠ none → m.winner = ℓ.winner
  decided : C.Decided ℓ → C.Decided m

/-- What the others leave as they are for a lane. While it holds the request they do nothing that is
stored. -/
structure Others (i : ι) (ℓ m : Lane ι) : Prop extends C.Onward ℓ m where
  mine : m.mine = ℓ.mine
  apart : Store.Apart ℓ.mine ℓ.store m.store
  same : ∀ tx ∈ ℓ.mine, C.holder? ℓ = some tx → Same ℓ m
  loses : ℓ.winner ≠ some i → m.winner ≠ some i

/-- What a lane has to see to in its own steps. -/
structure Fair (ℓ : Lane ι) (c : Command) (m : Lane ι) : Prop extends C.Onward ℓ m where
  owned : c.Owned ℓ.mine
  fit : C.Fit m
  same : ∀ tx ∉ ℓ.mine, C.holder? ℓ = some tx → Same ℓ m

variable {C} {i : ι} {ℓ m n : Lane ι} {tx : TxId}

/-- Nothing was committed where nothing happened. -/
theorem Same.refl (ℓ : Lane ι) : Same ℓ ℓ := ⟨rfl, rfl, rfl⟩

/-- Nothing was committed in two stretches, nothing in both. -/
theorem Same.trans (h₁ : Same ℓ m) (h₂ : Same m n) : Same ℓ n :=
  ⟨h₂.rows.trans h₁.rows, h₂.lastId.trans h₁.lastId, h₂.winner.trans h₁.winner⟩

/-- A lane that stays goes on. -/
theorem Onward.refl (ℓ : Lane ι) : C.Onward ℓ ℓ := ⟨fun _ => rfl, id⟩

/-- A lane that goes on twice goes on. -/
theorem Onward.trans (h₁ : C.Onward ℓ m) (h₂ : C.Onward m n) : C.Onward ℓ n where
  winner h := (h₂.winner (by rw [h₁.winner h]; exact h)).trans (h₁.winner h)
  decided h := h₂.decided (h₁.decided h)

/-- The others neither take the request from a lane nor give it. -/
theorem Others.holder?_iff (h : C.Others i ℓ m) (hm : tx ∈ ℓ.mine) :
    C.holder? m = some tx ↔ C.holder? ℓ = some tx := h.apart.locks _ tx hm

/-- Where nobody has won, nobody had won before. -/
theorem Onward.winner_eq_none (h : C.Onward ℓ m) (hm : m.winner = none) : ℓ.winner = none := by
  cases hw : ℓ.winner with
  | none => rfl
  | some k =>
    rw [h.winner (by rw [hw]; exact Option.some_ne_none k), hw] at hm
    cases hm

/-- The others may do nothing. -/
theorem Others.refl (i : ι) (ℓ : Lane ι) : C.Others i ℓ ℓ :=
  ⟨.refl ℓ, rfl, .refl _ _, fun _ _ _ => .refl ℓ, id⟩

/-- The others may go on. -/
theorem Others.trans (h₁ : C.Others i ℓ m) (h₂ : C.Others i m n) : C.Others i ℓ n where
  toOnward := h₁.toOnward.trans h₂.toOnward
  mine := h₂.mine.trans h₁.mine
  apart := h₁.apart.trans (by rw [← h₁.mine]; exact h₂.apart)
  same tx hm hh := (h₁.same tx hm hh).trans
    (h₂.same tx (by rw [h₁.mine]; exact hm) ((h₁.holder?_iff hm).2 hh))
  loses h := h₂.loses (h₁.loses h)

variable (C)

/-- How the program `i` runs beside the others. No operation of the store fails by itself. -/
def contest (i : ι) : Setting (Lane ι) where
  others := C.Others i
  own ℓ c x m := C.Fit ℓ ∧ ℓ.store.Does c x m.store ∧ m.mine = c.after ℓ.mine x ∧
    m.winner = c.wins i ℓ.winner
  fair := C.Fair
  refl := .refl i
  trans := .trans

/-- The transaction of the lane has done nothing but look. -/
structure Looks (i : ι) (tx : TxId) (ℓ : Lane ι) : Prop where
  mine : ℓ.mine = [tx]
  changes : ℓ.store.changes tx = .none
  free : C.holder? ℓ ≠ some tx
  loses : ℓ.winner ≠ some i

/-- The transaction of the lane holds the request, and sees a book. -/
structure Holds (i : ι) (tx : TxId) (winner : Option ι) (b : Book) (ℓ : Lane ι) : Prop where
  mine : ℓ.mine = [tx]
  held : C.holder? ℓ = some tx
  book : ℓ.store.book tx = b
  keyed : b.rows.Keyed
  winner : ℓ.winner = winner
  loses : ℓ.winner ≠ some i

/-- Somebody else has won, or holds the request. -/
structure Beaten (i : ι) (tx : TxId) (ℓ : Lane ι) : Prop where
  mine : ℓ.mine = [tx]
  loses : ℓ.winner ≠ some i
  decided : ℓ.winner ≠ none ∨ ∃ other, other ≠ tx ∧ C.holder? ℓ = some other

variable {C} {w : Option ι} {b : Book}

/-- What others do does not keep a lane from looking on. -/
theorem Looks.others (h : C.Looks i tx ℓ) (ho : C.Others i ℓ m) : C.Looks i tx m where
  mine := ho.mine.trans h.mine
  changes := (ho.apart.changes (by simp [h.mine])).trans h.changes
  free := mt (ho.holder?_iff (by simp [h.mine])).1 h.free
  loses := ho.loses h.loses

/-- What others do does not show to a lane that holds the request. -/
theorem Holds.others (h : C.Holds i tx w b ℓ) (ho : C.Others i ℓ m) : C.Holds i tx w b m where
  mine := ho.mine.trans h.mine
  held := (ho.holder?_iff (by simp [h.mine])).2 h.held
  book := by
    have hm : tx ∈ ℓ.mine := by simp [h.mine]
    have hsame := ho.same tx hm h.held
    rw [← h.book, Store.book, Store.book, ho.apart.view hsame.rows hm, hsame.lastId]
  keyed := h.keyed
  winner := (ho.same tx (by simp [h.mine]) h.held).winner.trans h.winner
  loses := ho.loses h.loses

/-- Where a lane is beaten, somebody has won or will. -/
theorem Beaten.decides (h : C.Beaten i tx ℓ) : C.Decided ℓ :=
  h.decided.imp_right fun ⟨other, _, hh⟩ => by rw [hh]; exact Option.some_ne_none other

/-- A lane that is beaten stays so. -/
theorem Beaten.others (h : C.Beaten i tx ℓ) (ho : C.Others i ℓ m) : C.Beaten i tx m where
  mine := ho.mine.trans h.mine
  loses := ho.loses h.loses
  decided := by
    rcases h.decided with hw | ⟨other, hne, hh⟩
    · exact Or.inl (by rw [ho.winner hw]; exact hw)
    · rcases ho.decided h.decides with hw | hsome
      · exact Or.inl hw
      · obtain ⟨t, ht⟩ := Option.ne_none_iff_exists'.1 hsome
        refine Or.inr ⟨t, ?_, ht⟩
        -- Had the lane got the request, it would have held it before.
        rintro rfl
        have := (ho.holder?_iff (by simp [h.mine])).1 ht
        rw [hh] at this
        exact hne (Option.some.inj this)

/-- A lane that holds the request after somebody has won is beaten. -/
theorem Holds.beaten {k : ι} (h : C.Holds i tx (some k) b ℓ) : C.Beaten i tx ℓ :=
  ⟨h.mine, h.loses, Or.inl (by rw [h.winner]; exact Option.some_ne_none k)⟩

/-- A lane that only looks sees what is stored. -/
theorem Looks.view (h : C.Looks i tx ℓ) : ℓ.store.view tx = ℓ.store.rows := by
  rw [Store.view, h.changes]
  rfl

/-- Where the request can be locked, there was no lock at all. -/
theorem Looks.unlocked (h : C.Looks i tx ℓ) (hf : C.Fit ℓ) {t : Store}
    (ht : ℓ.store.tryLock tx [.request C.request] = some t) (key : RowKey) (other : TxId) :
    ℓ.store.locks.holder? key ≠ some other := by
  intro hkey
  have hother := hf.locked key other hkey
  rcases Store.tryLock_cases ℓ.store tx [.request C.request] with ⟨hall, -⟩ | ⟨-, hnone⟩
  · have hfree := Locks.isFree_iff.1 (List.all_eq_true.1 hall _ List.mem_cons_self) other hother
    exact h.free (by rw [← hfree]; exact hother)
  · rw [ht] at hnone
    cases hnone

/-- A lane that gets the lock holds the request, and sees what is stored. -/
theorem Looks.holds (h : C.Looks i tx ℓ) (hf : C.Fit ℓ) (hk : (C.rows ℓ.winner).Keyed) {t : Store}
    (ht : ℓ.store.tryLock tx [.request C.request] = some t) :
    C.Holds i tx ℓ.winner ⟨C.rows ℓ.winner, ℓ.store.lastId⟩ ⟨ℓ.mine, t, ℓ.winner⟩ where
  mine := h.mine
  held := by
    unfold Store.tryLock at ht
    split at ht
    · rw [← Option.some.inj ht]
      change (ℓ.store.locks.take tx (.request C.request)).holder? (.request C.request) = some tx
      rw [Locks.holder?_take, if_pos rfl]
    · cases ht
  book := by
    rcases Store.tryLock_cases ℓ.store tx [.request C.request] with ⟨-, u, hu, hbook, -⟩ | ⟨-, hnone⟩
    · rw [ht] at hu
      rw [Option.some.inj hu, hbook, Store.book, h.view, hf.rows]
    · rw [ht] at hnone
      cases hnone
  keyed := hk
  winner := rfl
  loses := h.loses

/-- Where the request cannot be locked, somebody else has it. -/
theorem Looks.beaten (h : C.Looks i tx ℓ) (ht : ℓ.store.tryLock tx [.request C.request] = none) :
    C.Beaten i tx ℓ := by
  refine ⟨h.mine, h.loses, Or.inr ?_⟩
  cases hh : C.holder? ℓ with
  | some other => exact ⟨other, fun he => h.free (he ▸ hh), rfl⟩
  | none =>
    have hfree : ℓ.store.locks.isFree tx (.request C.request) = true :=
      Locks.isFree_iff.2 fun other hk => by
        rw [show ℓ.store.locks.holder? _ = none from hh] at hk
        cases hk
    simp [Store.tryLock, hfree] at ht

/-! ### Fair steps -/

/-- Nobody but the holder of the request has a lock. -/
theorem Fit.holder_eq (h : C.Fit ℓ) (hh : C.holder? ℓ = some tx) {key : RowKey} {other : TxId}
    (hk : ℓ.store.locks.holder? key = some other) : other = tx := by
  have hother := h.locked key other hk
  rw [hh] at hother
  exact (Option.some.inj hother).symm

/-- A step that changes nothing is fair. -/
theorem Fair.still {c : Command} (hf : C.Fit ℓ) (hc : c.Owned ℓ.mine) : C.Fair ℓ c ℓ :=
  ⟨.refl ℓ, hc, hf, fun _ _ _ => .refl ℓ⟩

/-- A call of the transaction that holds the request is fair, if nobody else has a lock. -/
theorem Fair.frame {c : Call} (hf : C.Fit ℓ) (hmine : ℓ.mine = [tx])
    (hframe : Store.Frame tx ℓ.store m.store) (hm : m.mine = ℓ.mine) (hw : m.winner = ℓ.winner)
    (hh : C.holder? m = some tx)
    (hfree : ∀ key other, ℓ.store.locks.holder? key = some other → other = tx) :
    C.Fair ℓ (.call tx c) m where
  winner _ := hw
  decided _ := Or.inr (by rw [hh]; exact Option.some_ne_none tx)
  owned := by
    change tx ∈ ℓ.mine
    simp [hmine]
  fit := by
    have hopen : ℓ.store.IsOpen tx := hf.isOpen tx (by simp [hmine])
    refine ⟨hf.orderly.frame hopen hframe, ?_, ?_, ?_, ?_⟩
    · intro t ht
      obtain rfl : t = tx := by simpa [hm, hmine] using ht
      exact hframe.stays hopen
    · rw [hframe.rows, hw]
      exact hf.rows
    · intro key t hk
      by_cases he : t = tx
      · rw [he]
        exact hh
      · exact absurd (hfree key t ((hframe.locks key t he).1 hk)) he
    · intro _ hnone
      rw [hh] at hnone
      cases hnone
  same t ht hk := by
    rw [hfree _ t hk, hmine] at ht
    exact absurd (List.mem_singleton.2 rfl) ht

end Course

end LoanDesk
