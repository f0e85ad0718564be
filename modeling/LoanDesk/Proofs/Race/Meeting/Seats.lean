/-
# Seats of tasks that meet

Several tasks are under way in one store, and each of them changes the tables of the desk in one
commit, if it does. The transaction of one task may stand in the middle when another one commits.
What that may change is what the one *sees* (`Meeting.sees`), and of rows that it holds it sees no
change at all.

A *seat* is one of the tasks in the middle. A task that keeps to its seat commits a *deed* on the rows
as they are at that moment, whatever it read before (`Meeting.Fair`).
-/

import LoanDesk.Proofs.Race.Outcome
import LoanDesk.Proofs.Store.Rebase

namespace LoanDesk

/-- The tables that the desk works on, without sheets, ceilings and job records. -/
def Rows.desk (rows : Rows) : Rows :=
  { rows with sheets := .empty, ceilings := .empty, jobs := .empty }

/-- Tables are the same if all four of them are. -/
theorem Rows.desk_eq_iff {rows rows' : Rows} : rows.desk = rows'.desk ↔
    rows.requests = rows'.requests ∧ rows.offers = rows'.offers ∧ rows.lines = rows'.lines ∧
      rows.contracts = rows'.contracts := by
  simp [Rows.desk]

/-- The tables stand under their own numbers. -/
theorem Rows.Keyed.desk {rows : Rows} (h : rows.Keyed) : rows.desk.Keyed :=
  { h with
    sheets := Table.keyed_empty _
    ceilings := Table.keyed_empty _
    jobs := Table.keyed_empty _ }

/-- One of several tasks in the middle: its open transactions, the store, and who has changed the
tables of the desk so far, one after another. -/
structure Seat (ι : Type) where
  mine : List TxId
  store : Store
  log : List ι

/-- What tasks do that meet, and what each of them may find changed by the others: no numbers up to
`last` are given out any more, and the tables are `sound` all along. -/
structure Meeting (ι : Type) where
  last : Int
  sound : Rows → Prop
  deed : ι → Rows → Rows → Prop
  sees : ι → Rows → Rows → Prop
  refl : ∀ i rows, sees i rows rows
  trans : ∀ {i rows rows' rows''}, sees i rows rows' → sees i rows' rows'' → sees i rows rows''
  kept : ∀ {i rows rows'}, sound rows → deed i rows rows' → sound rows'
  seen : ∀ {i j rows rows'}, i ≠ j → sound rows → deed j rows rows' → sees i rows rows'

namespace Meeting

variable {ι : Type} (M : Meeting ι) (i : ι)

/-- What holds in every state. -/
structure Fit (p : Seat ι) : Prop where
  orderly : p.store.Orderly
  isOpen : ∀ tx ∈ p.mine, p.store.IsOpen tx
  guards : ∀ tx, Store.Guards tx [] p.store
  keyed : p.store.rows.Keyed
  sound : M.sound p.store.rows.desk
  last : M.last ≤ p.store.lastId

/-- What the others leave as it is for a seat. -/
structure Others (p q : Seat ι) : Prop where
  mine : q.mine = p.mine
  apart : Store.Apart p.mine p.store q.store
  keyed : p.store.rows.Keyed → q.store.rows.Keyed
  sees : M.sees i p.store.rows.desk q.store.rows.desk
  held : ∀ tx ∈ p.mine, ∀ key, p.store.locks.holder? key = some tx →
    q.store.rows.row? key = p.store.rows.row? key
  log : i ∈ q.log ↔ i ∈ p.log

/-- Who changes the tables of the desk is put on record. -/
def Records (p q : Seat ι) : Prop :=
  q.store.rows.desk = p.store.rows.desk ∧ q.log = p.log ∨
    q.store.rows.desk ≠ p.store.rows.desk ∧ q.log = p.log ++ [i]

/-- What a task has to see to in its own steps: it changes the tables by its deed only, and does so
once. -/
structure Fair (p : Seat ι) (c : Command) (q : Seat ι) : Prop where
  owned : c.Owned p.mine
  fit : M.Fit q
  deed : q.store.rows.desk = p.store.rows.desk ∨
    i ∉ p.log ∧ M.deed i p.store.rows.desk q.store.rows.desk

variable {M i} {p q r : Seat ι} {tx : TxId}

/-- The others may do nothing. -/
theorem Others.refl (p : Seat ι) : M.Others i p p :=
  ⟨rfl, .refl _ _, id, M.refl _ _, fun _ _ _ _ => rfl, Iff.rfl⟩

/-- The others may go on. -/
theorem Others.trans (h₁ : M.Others i p q) (h₂ : M.Others i q r) : M.Others i p r where
  mine := h₂.mine.trans h₁.mine
  apart := h₁.apart.trans (by rw [← h₁.mine]; exact h₂.apart)
  keyed := h₂.keyed ∘ h₁.keyed
  sees := M.trans h₁.sees h₂.sees
  held tx hm key hk := by
    refine (h₂.held tx ?_ key ((h₁.apart.locks key tx hm).2 hk)).trans (h₁.held tx hm key hk)
    rw [h₁.mine]
    exact hm
  log := h₂.log.trans h₁.log

variable (M i)

/-- How a task runs beside the others. No operation of the store fails by itself. -/
def seat : Setting (Seat ι) where
  others := M.Others i
  own p c x q := M.Fit p ∧ p.store.Does c x q.store ∧ q.mine = c.after p.mine x ∧ Records i p q
  fair := M.Fair i
  refl := .refl
  trans := .trans

variable {M i}

/-- A step that keeps the tables keyed and sound keeps everything. -/
theorem Fit.step (h : M.Fit p) {c : Command} {x : c.Answer} (hc : c.Owned p.mine)
    (hd : p.store.Does c x q.store) (hm : q.mine = c.after p.mine x)
    (hk : q.store.rows.Keyed) (hs : M.sound q.store.rows.desk) : M.Fit q where
  orderly := Store.May.orderly h.orderly
    (fun tx d he => h.isOpen tx (by subst he; exact hc)) (Or.inl hd)
  isOpen := by
    rw [hm]
    exact Store.May.isOpen h.isOpen hc (Or.inl hd)
  guards := hd.guards h.guards
  keyed := hk
  sound := hs
  last := Int.le_trans h.last (Store.May.lastId (Or.inl hd))

/-- A step that leaves the rows alone is fair. -/
theorem Fair.still (h : M.Fit p) {c : Command} {x : c.Answer} (hc : c.Owned p.mine)
    (hd : p.store.Does c x q.store) (hm : q.mine = c.after p.mine x)
    (hrows : q.store.rows = p.store.rows) : M.Fair i p c q :=
  ⟨hc, h.step hc hd hm (by rw [hrows]; exact h.keyed) (by rw [hrows]; exact h.sound),
    Or.inl (by rw [hrows])⟩

/-- Where no rows change no deed is recorded. -/
theorem Records.log_eq (h : Records i p q) (hrows : q.store.rows = p.store.rows) :
    q.log = p.log := by
  rcases h with ⟨-, h⟩ | ⟨hne, -⟩
  · exact h
  · exact absurd (by rw [hrows]) hne

/-- The request that a transaction holds is as it was. -/
theorem Others.request_eq (h : M.Others i p q) (hm : tx ∈ p.mine) {id : Int}
    (hk : p.store.locks.holder? (.request id) = some tx) :
    q.store.rows.requests.get? id = p.store.rows.requests.get? id :=
  Option.map_injective (fun _ _ => Sum.inl.inj) (h.held tx hm _ hk)

/-- The line that a transaction holds is as it was. -/
theorem Others.line_eq (h : M.Others i p q) (hm : tx ∈ p.mine) {id : Int}
    (hk : p.store.locks.holder? (.line id) = some tx) :
    q.store.rows.lines.get? id = p.store.rows.lines.get? id :=
  Option.map_injective (fun _ _ => Sum.inr.inj) (h.held tx hm _ hk)

/-- The task has one open transaction, which holds what it has staged, and rows stand under their
own numbers. -/
structure Sits (tx : TxId) (p : Seat ι) : Prop where
  mine : p.mine = [tx]
  stored : p.store.rows.Keyed
  keyed : (p.store.changes tx).Keyed
  guards : Store.Guards tx [] p.store

/-- The transaction is one of the task. -/
theorem Sits.mem (h : Sits tx p) : tx ∈ p.mine := by simp [h.mine]

/-- What others do leaves the task its transaction. -/
theorem Sits.others (h : Sits tx p) (ho : M.Others i p q) : Sits tx q where
  mine := ho.mine.trans h.mine
  stored := ho.keyed h.stored
  keyed := by
    rw [ho.apart.changes h.mem]
    exact h.keyed
  guards := h.guards.of_eq (ho.apart.opened tx h.mem) fun key hk =>
    (ho.apart.locks key tx h.mem).2 hk

/-- A request that the transaction has staged is as it was. -/
theorem Sits.staged_request (h : Sits tx p) (ho : M.Others i p q) {id : Int}
    (hs : ((p.store.changes tx).requests.get? id).isSome) :
    q.store.rows.requests.get? id = p.store.rows.requests.get? id :=
  ho.request_eq h.mem (h.guards.staged (.request id) (by simpa [Changes.row?] using hs))

/-- A line that the transaction has staged is as it was. -/
theorem Sits.staged_line (h : Sits tx p) (ho : M.Others i p q) {id : Int}
    (hs : ((p.store.changes tx).lines.get? id).isSome) :
    q.store.rows.lines.get? id = p.store.rows.lines.get? id :=
  ho.line_eq h.mem (h.guards.staged (.line id) (by simpa [Changes.row?] using hs))

/-- What the transaction sees stands under its own numbers. -/
theorem Sits.view (h : Sits tx p) : (p.store.view tx).Keyed := h.keyed _ h.stored

/-- The transaction made a call and got an answer. -/
structure Asked (M : Meeting ι) (tx : TxId) (c : Call) (a : c.Answer) (p q : Seat ι) : Prop where
  fit : M.Fit p
  sits : Sits tx p
  perform : p.store.perform tx c = (.ok a, q.store)
  mine : q.mine = p.mine
  log : q.log = p.log

namespace Asked

variable {c : Call} {a : c.Answer}

/-- A call commits nothing. -/
theorem rows (h : M.Asked tx c a p q) : q.store.rows = p.store.rows := by
  rw [← Store.rows_perform p.store tx c, h.perform]

/-- A call does to the book that the transaction sees what it does to a book. -/
theorem book (h : M.Asked tx c a p q) :
    ∃ free, (p.store.book tx).perform free c = .ok (a, q.store.book tx) :=
  ⟨_, (Store.perform_ok h.sits.view h.perform).1⟩

/-- The task has its transaction after the call. -/
theorem after (h : M.Asked tx c a p q) : Sits tx q where
  mine := h.mine.trans h.sits.mine
  stored := by
    rw [h.rows]
    exact h.sits.stored
  keyed := Changes.keyed_of_overlay (r := q.store.rows)
    (Store.perform_ok h.sits.view h.perform).2.2
  guards := Store.Does.guards h.fit.guards (c := .call tx c) (x := .ok a) h.perform.symm tx

/-- The transaction holds what it held. -/
theorem held (h : M.Asked tx c a p q) {key : RowKey} (hk : p.store.locks.holder? key = some tx) :
    q.store.locks.holder? key = some tx := by
  have hf := (Store.perform_frame p.store tx c).held key hk
  rwa [h.perform] at hf

/-- What the call leaves alone of the staged rows is as it was. -/
theorem spares {γ : Type} {π : Changes → γ} (h : M.Asked tx c a p q)
    (hs : Store.Spares tx π (Store.act tx c)) :
    π (q.store.changes tx) = π (p.store.changes tx) := by
  rw [← hs p.store, show Store.act tx c p.store = _ from h.perform]

/-- The transaction holds what the call locks. -/
theorem grasps (h : M.Asked tx c a p q) {keys : c.Answer → List RowKey}
    (hg : Store.Grasps tx keys (Store.act tx c)) {key : RowKey} (hk : key ∈ keys a) :
    q.store.locks.holder? key = some tx := hg _ _ _ h.perform key hk

end Asked

/-- At this moment the transaction may be committed: it would make no change of the tables, or the
deed that is still to be done. -/
structure Ready (M : Meeting ι) (i : ι) (tx : TxId) (p : Seat ι) : Prop where
  sits : Sits tx p
  deed : (p.store.view tx).desk = p.store.rows.desk ∨
    i ∉ p.log ∧ M.deed i p.store.rows.desk (p.store.view tx).desk

end Meeting

end LoanDesk
