/-
# What an overview gives

A session without faults is followed step by step: a program that is put together runs one part after
the other (`Session.run_bind`), a call gives what the store answers (`Session.run_call`), and a look
gives what its body gives in a new transaction (`Session.run_look`). So an overview of a request gives
the request with the standing of its lines (`Session.run_overview`).
-/

import LoanDesk.Proofs.Desk.Closed

namespace LoanDesk

namespace Rows

/-- A request with where it stands. -/
def overview? (rows : Rows) (id : Int) : Option RequestOverview :=
  (rows.requests.get? id).map fun r => .of r (rows.linesOfAll [id])

end Rows

namespace Store

variable (s : Store) (tx : TxId)

/-- A new transaction sees what is committed. -/
theorem view_begin : s.begin.2.view s.begin.1 = s.rows := congrArg Book.rows s.book_begin

/-- The lines of requests are read as the transaction sees them. -/
theorem perform_linesOfRequests (ids : List Int) :
    s.perform tx (.linesOfRequests ids) = (.ok ((s.view tx).linesOfAll ids), s) := rfl

/-- A request is read as the transaction sees it. -/
theorem perform_getRequest (id : Int) : s.perform tx (.getRequest id) =
    ((s.view tx).requests.get? id |>.elim (.error (.notFound "request" id)) .ok, s) := by
  change request tx id s = _
  rw [request, bind_apply]
  change orError _ ((s.view tx).requests.get? id) s = _
  cases (s.view tx).requests.get? id <;> rfl

end Store

namespace Session

variable {α β : Type}

/-- A program runs its first part, and goes on from what that left. -/
theorem run_bind (p : Program α) (f : α → Program β) (s : Session) :
    Session.run (p.bind f) s = Session.run (f (Session.run p s).1) (Session.run p s).2 := by
  induction p generalizing s with
  | done a => rfl
  | step c next ih => exact ih (Session.handle c s).1 (Session.handle c s).2

/-- The rest goes on from what the first part is known to give. -/
theorem run_bind_of {p : Program α} {s t : Session} {a : α} (h : Session.run p s = (a, t))
    (f : α → Program β) : Session.run (p.bind f) s = Session.run (f a) t := by
  rw [run_bind, h]

/-- A look at a store without faults gives what its body gives in a new transaction. -/
theorem run_look (body : TxId → Desk.Action α) (store : Store) (mailbox : Mailbox) :
    (Session.run (Desk.look body).run ⟨store, mailbox, []⟩).1 =
      (Session.run (body store.begin.1).run ⟨store.begin.2, mailbox, []⟩).1 := by
  rw [Desk.look, Program.bracket_run]
  change (Session.run ((body store.begin.1).run.bind _) ⟨store.begin.2, mailbox, []⟩).1 = _
  rw [run_bind]
  generalize Session.run (body store.begin.1).run ⟨store.begin.2, mailbox, []⟩ = x
  obtain ⟨e | a, t⟩ := x <;> rfl

/-- A program runs its first command, and goes on with the answer. -/
theorem run_step (c : Command) (next : c.Answer → Program α) (s : Session) :
    Session.run (.step c next) s =
      Session.run (next (Session.handle c s).1) (Session.handle c s).2 := rfl

/-- A call without faults gives what the store answers. -/
theorem run_call (store : Store) (mailbox : Mailbox) (tx : TxId) (c : Call) :
    Session.run (Desk.ask tx c).run ⟨store, mailbox, []⟩ =
      ((store.perform tx c).1.mapError Failure.ofStore, ⟨(store.perform tx c).2, mailbox, []⟩) := by
  have hhandle : Session.handle (.call tx c) ⟨store, mailbox, []⟩ =
      ((store.perform tx c).1, ⟨(store.perform tx c).2, mailbox, []⟩) := rfl
  change Session.run (.step (.call tx c) _) _ = _
  rw [run_step, hhandle]
  generalize store.perform tx c = x
  obtain ⟨e | a, t⟩ := x <;> rfl

/-- A call that succeeds gives its answer. -/
theorem run_ask {store t : Store} {mailbox : Mailbox} {tx : TxId} {c : Call} {a : c.Answer}
    (h : store.perform tx c = (.ok a, t)) :
    Session.run (Desk.ask tx c).run ⟨store, mailbox, []⟩ = (.ok a, ⟨t, mailbox, []⟩) := by
  rw [run_call, h]
  rfl

/-- An action goes on unless its first part fails. -/
theorem run_exceptBind {ε α β : Type} (m : ExceptT ε Program α) (f : α → ExceptT ε Program β)
    (s : Session) : Session.run (m >>= f).run s =
      match Session.run m.run s with
      | (.ok a, t) => Session.run (f a).run t
      | (.error e, t) => (.error e, t) := by
  change Session.run (m.run.bind (ExceptT.bindCont f)) s = _
  rw [run_bind]
  generalize Session.run m.run s = x
  obtain ⟨e | a, t⟩ := x <;> rfl

/-- It goes on from what the first part is known to give. -/
theorem run_bindExcept {m : Desk.Action α} {f : α → Desk.Action β} {s t : Session} {a : α}
    (h : Session.run m.run s = (.ok a, t)) :
    Session.run (m >>= f).run s = Session.run (f a).run t := by
  rw [run_exceptBind, h]

/-- An overview of a request, or what is told where there is none. -/
theorem run_overview? (store : Store) (mailbox : Mailbox) (id : Int) :
    (Session.run (Desk.overview id).run ⟨store, mailbox, []⟩).1 =
      (store.rows.overview? id).elim (.error (.notFound "request" id)) .ok := by
  rw [Desk.overview, run_look, Rows.overview?]
  have hget := store.begin.2.perform_getRequest store.begin.1 id
  rw [Store.view_begin] at hget
  cases hr : store.rows.requests.get? id with
  | none =>
    rw [hr] at hget
    rw [run_exceptBind, run_call, hget]
    rfl
  | some r =>
    rw [hr] at hget
    rw [run_bindExcept (run_ask hget), run_bindExcept (run_ask (Store.perform_linesOfRequests ..)),
      Store.view_begin]
    rfl

/-- An overview gives the request with the standing of its lines. -/
theorem run_overview {store : Store} {mailbox : Mailbox} {id : Int} {r : Request}
    (hr : store.rows.requests.get? id = some r) :
    (Session.run (Desk.overview id).run ⟨store, mailbox, []⟩).1 =
      .ok (.of r (newestFirst (fun l => (l.createdAt, l.id)) (store.rows.linesOf id))) := by
  rw [run_overview?, Rows.overview?, hr, ← Rows.filter_request]
  rfl

end Session

end LoanDesk
