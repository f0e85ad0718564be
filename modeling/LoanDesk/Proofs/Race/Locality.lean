/-
# Actions that keep to a part of what is stored

A body runs by itself on the book of its transaction, where all rows are free (`Program.Gives`). It
is *local* to a part of the rows if it gives the same on the part as on the whole, makes of the part
what it makes of the whole, and leaves the rest as it is (`Program.Local`). A body is local if its
calls are, and the calls of an operation about one request are local to any part that has the request
and all that belongs to it (`Operation.local_action`).
-/

import LoanDesk.Proofs.Race.Alone
import LoanDesk.Proofs.Store.Parts

namespace LoanDesk

/-! ### Bodies by themselves -/

namespace Program

variable {α β ε : Type} {tx : TxId}

/-- The program makes calls in the transaction only, all rows are free to it, and this is what it
gives on the book: a result and the book that it leaves, or an error, which ends it. -/
inductive Gives (tx : TxId) : Program (Except ε α) → Book → Except ε (α × Book) → Prop
  | done (a : α) (b : Book) : Gives tx (.done (.ok a)) b (.ok (a, b))
  | fail (e : ε) (b : Book) : Gives tx (.done (.error e)) b (.error e)
  | ok {c : Call} {next : Except StoreError c.Answer → Program (Except ε α)} {a : c.Answer}
    {b b' : Book} {x : Except ε (α × Book)} (h : b.perform (fun _ => true) c = .ok (a, b'))
    (hn : Gives tx (next (.ok a)) b' x) : Gives tx (.step (.call tx c) next) b x
  | error {c : Call} {next : Except StoreError c.Answer → Program (Except ε α)} {b : Book}
    {e : StoreError} {e' : ε} (h : b.perform (fun _ => true) c = .error e)
    (hn : next (.error e) = .done (.error e')) :
    Gives tx (.step (.call tx c) next) b (.error e')

namespace Gives

variable {p : Program (Except ε α)} {b : Book} {x : Except ε (α × Book)}

/-- A body gives what its rest gives after what its first part gives. -/
theorem bind {f : α → ExceptT ε Program β} {y : Except ε (β × Book)} (h : Gives tx p b x) :
    (∀ a b', x = .ok (a, b') → Gives tx (f a).run b' y) → (∀ e, x = .error e → y = .error e) →
      Gives tx (p.bind (ExceptT.bindCont f)) b y := by
  induction h with
  | done a b => exact fun hf _ => hf a b rfl
  | fail e b =>
    intro _ he
    rw [he e rfl]
    exact .fail e b
  | ok h _ ih => exact fun hf he => .ok h (ih hf he)
  | error h hn =>
    intro _ he
    rw [he _ rfl]
    exact .error h (congrArg (Program.bind · (ExceptT.bindCont f)) hn)

/-- What a body brings whatever others do, it brings by itself. -/
theorem brings {Q : α → Book → Prop} {E : ε → Book → Prop} (h : Gives tx p b x) :
    Ensures Book.shared (outcome Q E) p b → ∀ a b', x = .ok (a, b') → Q a b' := by
  induction h with
  | done a b =>
    rintro hq _ _ ⟨⟩
    exact hq b (Book.shared.refl b)
  | fail | error => exact fun _ => nofun
  | ok h _ ih => exact fun hq => ih (hq _ (Book.shared.refl _) (.ok _) _ ⟨_, h⟩).2

end Gives

/-- A call fails in the transaction as it does on the book. -/
theorem Solo.perform_error {b : Book} {s : Store} (hs : Solo tx b s) {c : Call} {e : StoreError}
    (h : b.perform (fun _ => true) c = .error e) : (s.perform tx c).1 = .error e := by
  rw [← hs.book, ← hs.isFree] at h
  cases hp : s.perform tx c with
  | mk x t =>
    cases x with
    | ok a =>
      rw [(Store.perform_ok hs.keyed hp).1] at h
      cases h
    | error e' =>
      rw [Store.perform_error hs.keyed hp] at h
      obtain rfl := Except.error.inj h
      rfl

/-- A body in its transaction gives what it gives on the book that the transaction sees. -/
theorem Gives.alone {p : Program (Except ε α)} {b : Book} {x : Except ε (α × Book)}
    (h : Gives tx p b x) : ∀ {s : Store}, Solo tx b s →
      Ensures Store.alone (fun y t => y = x.map Prod.fst ∧ t.rows = s.rows ∧
        ∀ a b', x = .ok (a, b') → Solo tx b' t) p s := by
  induction h with
  | done a b =>
    rintro s hs t rfl
    refine ⟨rfl, rfl, ?_⟩
    rintro _ _ ⟨⟩
    exact hs
  | fail e b =>
    rintro s hs t rfl
    exact ⟨rfl, rfl, nofun⟩
  | @ok c next a b b' x h _ ih =>
    rintro s hs t rfl y u hu
    rw [← hs.book, ← hs.isFree] at h
    obtain ⟨v, hv, hbook, hk⟩ := Store.perform_of_book hs.keyed h
    obtain ⟨rfl, rfl⟩ := Prod.mk.inj ((show (y, u) = t.perform tx c from hu).trans hv)
    have hrows := Store.rows_perform t tx c
    have hstep : _ → _ → Solo tx b' (t.perform tx c).2 := hs.step c
    rw [hv] at hrows hstep
    exact ⟨trivial, (ih (hstep hbook hk)).mono fun _ _ hw => ⟨hw.1, hw.2.1.trans hrows, hw.2.2⟩⟩
  | @error c next b e e' h hn =>
    rintro s hs t rfl y u hu
    have hyu : (y, u) = t.perform tx c := hu
    obtain rfl : y = .error e := (congrArg Prod.fst hyu).trans (hs.perform_error h)
    have hrows : u.rows = t.rows := by
      rw [← Store.rows_perform t tx c, ← hyu]
    refine ⟨trivial, ?_⟩
    rw [hn]
    rintro v rfl
    exact ⟨rfl, hrows, nofun⟩

end Program

/-- The rows that are stored after a body has run on a book: those that it leaves, unless it
failed. -/
def Rows.after {ε α : Type} (rows : Rows) : Except ε (α × Book) → Rows
  | .ok (_, b) => b.rows
  | .error _ => rows

namespace Program

/-- A bracket gives what its body gives on the book that was stored. -/
theorem Gives.bracket {α ε : Type} {blame : StoreError → ε} {s : Store}
    {body : TxId → ExceptT ε Program α} {x : Except ε (α × Book)} (hs : s.Still)
    (h : Gives s.begin.1 (body s.begin.1).run s.stored x) :
    Ensures Store.alone (fun y t => y = x.map Prod.fst ∧ t.rows = s.rows.after x)
      (Program.bracket blame (fun _ => true) body).run s := by
  rw [bracket_run]
  rintro t rfl y u ⟨rfl, rfl⟩
  refine ⟨trivial, ?_⟩
  refine Ensures.bind (fun y v hv => ?_) (h.alone (solo_begin hs))
  obtain ⟨rfl, hrows, hsolo⟩ := hv v rfl
  cases x with
  | error e =>
    rintro w rfl y u hu
    obtain rfl : u = w.drop t.begin.1 := hu
    refine ⟨trivial, ?_⟩
    rintro z rfl
    exact ⟨rfl, hrows⟩
  | ok x =>
    obtain ⟨a, b⟩ := x
    rintro w rfl y u ⟨rfl, rfl⟩
    refine ⟨trivial, ?_⟩
    rintro z rfl
    exact ⟨rfl, congrArg Book.rows (hsolo a b rfl).book⟩

/-! ### Local bodies -/

section Local

variable {α β ε : Type} {blame : StoreError → ε} {p : Int → Bool} {tx tx' : TxId} {rows : Rows}

/-- The first body in one transaction and the second in another: the second makes of the part what
the first makes of the rows, and the first leaves the rest as it is. -/
def Local (p : Int → Bool) (tx tx' : TxId) (m m' : ExceptT ε Program α) (rows : Rows) : Prop :=
  ∀ n n', ∃ x x', Gives tx m.run ⟨rows, n⟩ x ∧ Gives tx' m'.run ⟨rows.part p, n'⟩ x' ∧
    Book.Splits p rows x x'

/-- A result is given everywhere. -/
theorem local_pure (a : α) : Local p tx tx' (pure a : ExceptT ε Program α) (pure a) rows :=
  fun _ _ => ⟨_, _, .done a _, .done a _, .ok rfl rfl⟩

/-- A failure is given everywhere. -/
theorem local_throw (e : ε) :
    Local p tx tx' (throw e : ExceptT ε Program α) (throw e) rows :=
  fun _ _ => ⟨_, _, .fail e _, .fail e _, .error e⟩

/-- One local body after another. -/
theorem Local.bind {m m' : ExceptT ε Program α} {f f' : α → ExceptT ε Program β}
    (hm : Local p tx tx' m m' rows) (hf : ∀ n a b, Gives tx m.run ⟨rows, n⟩ (.ok (a, b)) →
      Local p tx tx' (f a) (f' a) b.rows) : Local p tx tx' (m >>= f) (m' >>= f') rows := by
  intro n n'
  obtain ⟨x, x', hx, hx', hs⟩ := hm n n'
  cases hs with
  | @ok a b b' hpart hrest =>
    obtain ⟨y, y', hy, hy', hs⟩ := hf n a b hx b.last b'.last
    rw [hpart] at hy'
    refine ⟨y, y', hx.bind ?_ nofun, hx'.bind ?_ nofun, hs.trans hrest⟩
    · rintro _ _ ⟨⟩
      exact hy
    · rintro _ _ ⟨⟩
      exact hy'
  | error e =>
    refine ⟨.error e, .error e, hx.bind nofun ?_, hx'.bind nofun ?_, .error e⟩
    · rintro _ ⟨⟩
      rfl
    · rintro _ ⟨⟩
      rfl

/-- A local call makes a local body. -/
theorem local_call {c : Call} (hc : c.Local p rows) :
    Local p tx tx' (Program.ask blame tx c) (Program.ask blame tx' c) rows := by
  intro n n'
  have hs := hc n n'
  cases hx : Book.perform (fun _ => true) ⟨rows, n⟩ c with
  | ok x =>
    cases hx' : Book.perform (fun _ => true) ⟨rows.part p, n'⟩ c with
    | ok x' =>
      rw [hx, hx'] at hs
      cases hs with
      | ok hpart hrest => exact ⟨_, _, .ok hx (.done _ _), .ok hx' (.done _ _), .ok hpart hrest⟩
    | error e =>
      rw [hx, hx'] at hs
      cases hs
  | error e =>
    cases hx' : Book.perform (fun _ => true) ⟨rows.part p, n'⟩ c with
    | ok x' =>
      rw [hx, hx'] at hs
      cases hs
    | error e' =>
      rw [hx, hx'] at hs
      cases hs
      exact ⟨_, _, .error hx rfl, .error hx' rfl, .error _⟩

/-- A call, and what follows on its answer. -/
theorem Local.ask {c : Call} {f f' : c.Answer → ExceptT ε Program β} (hc : c.Local p rows)
    (hf : ∀ n a b, Book.perform (fun _ => true) ⟨rows, n⟩ c = .ok (a, b) →
      Local p tx tx' (f a) (f' a) b.rows) :
    Local p tx tx' (Program.ask blame tx c >>= f) (Program.ask blame tx' c >>= f') rows := by
  refine (local_call hc).bind fun n a b h => ?_
  cases h with
  | ok h hn =>
    cases hn
    exact hf n a b h

/-- A body that is in every transaction makes no calls. -/
theorem local_of_within {m : ExceptT ε Program α} (h : ∀ tx, Within tx m) :
    Local p tx tx' m m rows := by
  intro n n'
  have h₀ := h 0
  have h₁ := h 1
  unfold Within at h₀ h₁
  generalize m.run = q at h₀ h₁
  match q, h₀, h₁ with
  | .done (.ok a), _, _ => exact ⟨_, _, .done a _, .done a _, .ok rfl rfl⟩
  | .done (.error e), _, _ => exact ⟨_, _, .fail e _, .fail e _, .error e⟩
  | .step (.call i _) _, ⟨hi, _⟩, ⟨hi', _⟩ => exact absurd (hi.symm.trans hi') (by decide)

end Local
end Program

/-! ### Local actions -/

namespace Mailbox

variable (m : Mailbox)

/-- What a mailbox does with an event does not depend on those that it has. -/
theorem deliver_takeAll (e : Event) : (m.takeAll.2.deliver e).1 = (m.deliver e).1 := by
  unfold deliver takeAll
  dsimp only
  split
  · split <;> rfl
  · rfl

/-- An event leaves a mailbox as it is, but for the events in it. -/
theorem takeAll_deliver (e : Event) : (m.deliver e).2.takeAll.2 = m.takeAll.2 := by
  unfold deliver
  split
  · split <;> rfl
  · rfl

/-- Events leave a mailbox as it is, but for the events in it. -/
theorem takeAll_deliverAll (es : List Event) : (m.deliverAll es).takeAll.2 = m.takeAll.2 := by
  unfold deliverAll
  induction es generalizing m with
  | nil => rfl
  | cons e es ih => rw [List.foldl_cons, ih, takeAll_deliver]

end Mailbox

namespace Session

variable {α β : Type} {s : Session} {p : Int → Bool}

/-- A part of what is stored, as if nothing else had ever happened. -/
def part (s : Session) (p : Int → Bool) : Session where
  store := { Store.empty with rows := s.store.rows.part p }
  mailbox := s.mailbox.takeAll.2
  faults := []

/-- The action gives on the part what it gives on the whole, makes of the part what it makes of the
whole, and leaves the rest as it is. -/
structure Local (s : Session) (p : Int → Bool) (m : Desk.Action α) : Prop where
  result : (Session.run m.run s).1 = (Session.run m.run (s.part p)).1
  part : (Session.run m.run s).2.store.rows.part p = (Session.run m.run (s.part p)).2.store.rows
  rest : (Session.run m.run s).2.store.rows.rest p = s.store.rows.rest p

/-- An action that fails is local. -/
theorem local_throw (e : Failure) : s.Local p (throw e : Desk.Action α) := ⟨rfl, rfl, rfl⟩

/-- A change is local if its body is. -/
theorem local_change {body : TxId → Desk.Action α} (hf : s.faults = []) (hs : s.store.Still)
    (h : ∀ tx tx', Program.Local p tx tx' (body tx) (body tx') s.store.rows) :
    s.Local p (Desk.change body) := by
  have hstill : (s.part p).store.Still := ⟨hs.keyed.part p, fun key => by cases key <;> rfl⟩
  obtain ⟨x, x', hx, hx', hsplits⟩ := h s.store.begin.1 (s.part p).store.begin.1 s.store.lastId 0
  obtain ⟨⟨hresult, hrows⟩, -⟩ := Session.run_alone _ s hf (hx.bracket hs)
  obtain ⟨⟨hresult', hrows'⟩, -⟩ := Session.run_alone _ (s.part p) rfl (hx'.bracket hstill)
  refine ⟨hresult.trans (Eq.trans ?_ hresult'.symm), ?_, ?_⟩
  · cases hsplits <;> rfl
  · refine (congrArg (Rows.part · p) hrows).trans (Eq.trans ?_ hrows'.symm)
    cases hsplits with
    | ok hpart hrest => exact hpart
    | error e => rfl
  · refine (congrArg (Rows.rest · p) hrows).trans ?_
    cases hsplits with
    | ok hpart hrest => exact hrest
    | error e => rfl

/-! ### Telling -/

/-- The action only tells: it leaves what is stored alone, and what it gives depends on nothing but
what becomes of events. -/
def Tells (m : Desk.Action α) : Prop :=
  ∀ s : Session, (Session.run m.run s).2.store = s.store ∧ ∀ s' : Session,
    s.mailbox.takeAll.2 = s'.mailbox.takeAll.2 → (Session.run m.run s).1 = (Session.run m.run s').1

/-- An action that gives a result only tells. -/
theorem tells_pure (a : α) : Tells (pure a) := fun _ => ⟨rfl, fun _ _ => rfl⟩

/-- So does an action that tells of one event. -/
theorem tells_tell (e : Event) (f : Option String → α) :
    Tells (do return f (← Desk.deliver e)) := by
  have hrun : ∀ s : Session, Session.run (do return f (← Desk.deliver e) : Desk.Action α).run s =
      (.ok (f (match (s.mailbox.deliver e).1 with
        | .ok () => none
        | .error e => some e.message)), { s with mailbox := (s.mailbox.deliver e).2 }) := by
    intro s
    change Session.run (.step (.deliver e) _) s = _
    have hhandle : Session.handle (.deliver e) s =
        ((s.mailbox.deliver e).1, { s with mailbox := (s.mailbox.deliver e).2 }) := rfl
    rw [run_step, hhandle]
    generalize s.mailbox.deliver e = x
    obtain ⟨_ | _, m⟩ := x <;> rfl
  intro s
  refine ⟨by rw [hrun], fun s' hs => ?_⟩
  rw [hrun, hrun, ← s.mailbox.deliver_takeAll, hs, s'.mailbox.deliver_takeAll]

/-- What is told after a local action depends on the part only. -/
theorem Local.tell {m : Desk.Action α} {q : α → Desk.Action β} (h : s.Local p m)
    (hq : ∀ a, Tells (q a)) : s.Local p (m >>= q) := by
  have hmailbox : (Session.run m.run s).2.mailbox.takeAll.2 =
      (Session.run m.run (s.part p)).2.mailbox.takeAll.2 := by
    rw [Program.mailbox_dispatched, Program.mailbox_dispatched, Mailbox.takeAll_deliverAll,
      Mailbox.takeAll_deliverAll]
    rfl
  obtain ⟨hresult, hpart, hrest⟩ := h
  cases hx : Session.run m.run s with
  | mk y t =>
    cases hx' : Session.run m.run (s.part p) with
    | mk y' t' =>
      rw [hx, hx'] at hmailbox hresult hpart
      rw [hx] at hrest
      obtain rfl : y = y' := hresult
      cases y with
      | error e =>
        have hrun : Session.run (m >>= q).run s = (.error e, t) := by rw [run_exceptBind, hx]
        have hrun' : Session.run (m >>= q).run (s.part p) = (.error e, t') := by
          rw [run_exceptBind, hx']
        constructor <;> simp only [hrun, hrun']
        · exact hpart
        · exact hrest
      | ok a =>
        have hrun : Session.run (m >>= q).run s = Session.run (q a).run t := run_bindExcept hx
        have hrun' : Session.run (m >>= q).run (s.part p) = Session.run (q a).run t' :=
          run_bindExcept hx'
        obtain ⟨hstore, htold⟩ := hq a t
        constructor <;> simp only [hrun, hrun']
        · exact htold t' hmailbox
        · rw [hstore, (hq a t').1]
          exact hpart
        · rw [hstore]
          exact hrest

end Session
end LoanDesk
