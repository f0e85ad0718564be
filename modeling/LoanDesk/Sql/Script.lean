/-
# Scripts of queries

`store/postgres`: the way in which the methods of `PgTx` send queries, and `from_sqlx` of
`store/error` as `about`.

What a call comes to on a database: queries, one after another, each depending on the replies so
far. A script is a tree of queries with a branch for each reply, so that its meaning does not depend
on the server.

`fetchAll`, `fetchOne` and `execute` are the three ways to send a query; they differ in what they
make of the reply.
-/

import LoanDesk.Sql.Statement

namespace LoanDesk
namespace Sql

/-- What a server gives back. -/
inductive Reply where
  | rows (rows : List Row)
  | affected (n : Nat)

/-- A result, or a query and what follows on its reply. -/
inductive Script (α : Type) : Type where
  | done (a : α)
  | send (q : Query) (next : Except DatabaseError Reply → Script α)

namespace Script

/-- One script after another. -/
def bind {α β : Type} (s : Script α) (f : α → Script β) : Script β :=
  match s with
  | done a => f a
  | send q next => send q fun reply => bind (next reply) f

instance : Monad Script where
  pure := done
  bind := bind

/-- A script with a meaning given to each query. -/
def run {m : Type → Type} [Monad m] (answer : Query → m (Except DatabaseError Reply)) {α : Type} :
    Script α → m α
  | done a => pure a
  | send q next => do run answer (next (← answer q))

end Script

/-- A script that may fail on the database. -/
abbrev Fetch := ExceptT DatabaseError Script

/-- A script that may fail as a store does. -/
abbrev Work := ExceptT StoreError Script

/-- The reply to a query. -/
def reply (q : Query) : Fetch Reply := ExceptT.mk (.send q .done)

/-- All rows of the reply. -/
def fetchAll (q : Query) : Fetch (List Row) := do
  match ← reply q with
  | .rows rows => return rows
  | .affected _ => return []

/-- The first row of the reply, if there is one. -/
def fetchFirst (q : Query) : Fetch (Option Row) := do return (← fetchAll q).head?

/-- The first row of the reply, which has to be there. -/
def fetchOne (q : Query) : Fetch Row := do
  match ← fetchFirst q with
  | some row => return row
  | none => throw .rowNotFound

/-- How many rows the query changed. -/
def execute (q : Query) : Fetch Nat := do
  match ← reply q with
  | .affected n => return n
  | .rows _ => return 0

/-- A result that the database may have refused. -/
def ofDatabase {α : Type} (r : Except DatabaseError α) : Fetch α := ExceptT.mk (.done r)

/-- A failure of the database is a failure of the store as it is. -/
def plainly {α : Type} (f : Fetch α) : Work α := ExceptT.adapt .database f

/-- A failure of the database is about one row. -/
def about {α : Type} (entity : String) (id : Int) (f : Fetch α) : Work α :=
  ExceptT.adapt (.about entity id) f

end Sql
end LoanDesk
