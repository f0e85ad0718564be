/-
# A scripted server

The other side of `PgStore` and `PgTx` of `store/postgres`: its pool and its transactions.

One connection to a server without data: it gives the replies it was told to give, in order, and no
rows once they are used up. Every statement that it is sent is written down.

A transaction takes the connection until it ends. To begin another one meanwhile times out, and
nothing is sent. A transaction that does not commit is rolled back, and so is one whose beginning or
commit was refused.
-/

import LoanDesk.Program
import LoanDesk.Session.Mailbox
import LoanDesk.Sql.Calls

namespace LoanDesk
namespace Sql

/-- What a server was sent. -/
inductive Sent where
  | control (word : String)
  | query (q : Query)

/-- The JSON object of what was sent. -/
def Sent.toObject : Sent → Json
  | control word => .obj [("sql", .str word)]
  | query q => .obj
    [("sql", .str q.statement.text), ("params", .arr (q.params.map fun v => v.sent.toJson))]

/-- The server at the other end of the connection, and the mailbox. -/
structure Server where
  /-- What it was sent, the last first. -/
  log : List Sent
  replies : List (Except DatabaseError Reply)
  beginFails : Option DatabaseError
  commitFails : Option DatabaseError
  open_ : Bool
  lastTx : TxId
  mailbox : Mailbox

namespace Server

/-- A server that was sent nothing. -/
def idle (keeps : Bool) : Server := ⟨[], [], none, none, false, 0, .empty keeps⟩

/-- Something is sent. -/
def send (sent : Sent) : StateM Server Unit :=
  modify fun s => { s with log := sent :: s.log }

/-- A query is sent; the next reply. -/
def answer (q : Query) : StateM Server (Except DatabaseError Reply) := do
  send (.query q)
  modifyGet fun s =>
    match s.replies with
    | [] => (.ok (.rows []), s)
    | r :: rest => (r, { s with replies := rest })

/-- The connection is free again. -/
def free : StateM Server Unit := modify fun s => { s with open_ := false }

/-- A transaction is begun. -/
def begin : StateM Server (Except StoreError TxId) := do
  let s ← get
  if s.open_ then return .error (.database .poolTimedOut)
  send (.control "BEGIN")
  match s.beginFails with
  | some e =>
    send (.control "ROLLBACK")
    return .error (.database e)
  | none =>
    modifyGet fun s => (.ok (s.lastTx + 1), { s with lastTx := s.lastTx + 1, open_ := true })

/-- A transaction commits, and the connection is free either way. -/
def commit : StateM Server (Except StoreError Unit) := do
  send (.control "COMMIT")
  free
  match (← get).commitFails with
  | some e =>
    send (.control "ROLLBACK")
    return .error (.database e)
  | none => return .ok ()

/-- A transaction is rolled back. -/
def rollback : StateM Server Unit := do
  send (.control "ROLLBACK")
  free

/-- What a command does. -/
def handle : (c : Command) → StateM Server c.Answer
  | .begin => begin
  | .call _ c => (script c).run.run answer
  | .commit _ => commit
  | .drop _ => rollback
  | .deliver e => modifyGet fun s =>
    let r := s.mailbox.deliver e
    (r.1, { s with mailbox := r.2 })

/-- A program is run. -/
def run {α : Type} (p : Program α) : StateM Server α := p.run handle

/-- Queries outside any transaction, which need the connection to be free. -/
def query {α : Type} (f : Fetch α) : StateM Server (Except DatabaseError α) := do
  if (← get).open_ then return .error .poolTimedOut
  f.run.run answer

/-- More batches than a run of the declining job can need: each takes a reply. -/
def rounds (s : Server) : Nat := s.replies.length + 1

/-- The replies and failures for what comes next. -/
def expect (replies : List (Except DatabaseError Reply))
    (beginFails commitFails : Option DatabaseError) (s : Server) : Server :=
  { s with replies, beginFails, commitFails }

/-- What was sent since the last time, in order. -/
def takeLog (s : Server) : List Sent × Server := (s.log.reverse, { s with log := [] })

end Server
end Sql
end LoanDesk
