/-
# Statements

`store/postgres`: the texts of its queries. The tables are those of
`migrations/001_loan_package_schema`.

The statements that reach the server, as data. Values do not stand in a statement but are bound to
its places, which are counted from one; only a few fixed words and numbers are written out.

`Statement.text` writes a statement on one line.
-/

import LoanDesk.Sql.Value
import LoanDesk.Store.Call

namespace LoanDesk
namespace Sql

/-- A value inside a statement. -/
inductive Operand where
  | bound (place : Nat)
  | word (s : String)
  | number (n : Nat)
  deriving DecidableEq

/-- How a column relates to a value. -/
inductive Relation where
  | eq
  | le
  | ge
  | lt
  | among
  deriving DecidableEq

/-- A condition on a column. -/
structure Condition where
  column : String
  relation : Relation
  operand : Operand
  deriving DecidableEq

/-- A column to order by. -/
inductive Order where
  | ascending (column : String)
  | descending (column : String)
  deriving DecidableEq

/-- Rows of one table. -/
structure Selection where
  columns : List String
  table : String
  /-- The conditions are added to one that always holds. -/
  open_ : Bool := false
  conditions : List Condition
  order : List Order := []
  limit : Option Operand := none
  offset : Option Operand := none
  lock : Option LockMode := none
  deriving DecidableEq

/-- Rows of one table whose partner in another satisfies conditions. -/
structure Joined where
  columns : List String
  table : String
  key : String
  other : String
  otherKey : String
  conditions : List Condition
  order : List Order
  deriving DecidableEq

/-- Rows of one table that satisfy conditions and have a row in another that does. -/
structure Having where
  columns : List String
  table : String
  conditions : List Condition
  other : String
  link : String
  otherConditions : List Condition
  order : List Order
  deriving DecidableEq

/-- New rows. -/
structure Insertion where
  table : String
  columns : List String
  /-- The list of columns is set off by blanks. -/
  spaced : Bool := false
  rows : List (List Operand)
  returning : List String
  deriving DecidableEq

/-- New values in the rows that satisfy conditions. -/
structure Update where
  table : String
  set_ : List (String × Operand)
  conditions : List Condition
  returning : List String := []
  deriving DecidableEq

/-- A statement. -/
inductive Statement where
  | select (s : Selection)
  | count (table : String) (conditions : List Condition)
  | join (s : Joined)
  | having (s : Having)
  | insert (s : Insertion)
  | update (s : Update)
  | delete (table : String) (conditions : List Condition)
  | ping
  | tableExists
  deriving DecidableEq

/-- Texts with a separator between them. -/
def commas (parts : List String) : String := String.intercalate ", " parts

/-- A value inside a statement. -/
def Operand.text : Operand → String
  | bound place => "$" ++ Text.ofInt place
  | word s => "'" ++ s ++ "'"
  | number n => Text.ofInt n

/-- A condition. -/
def Condition.text (c : Condition) : String :=
  match c.relation with
  | .eq => c.column ++ " = " ++ c.operand.text
  | .le => c.column ++ " <= " ++ c.operand.text
  | .ge => c.column ++ " >= " ++ c.operand.text
  | .lt => c.column ++ " < " ++ c.operand.text
  | .among => c.column ++ " = ANY(" ++ c.operand.text ++ ")"

/-- A condition on the row of a name. -/
def Condition.of (row : String) (c : Condition) : Condition :=
  { c with column := row ++ "." ++ c.column }

/-- A column to order by. -/
def Order.text (row : String) : Order → String
  | ascending column => row ++ column
  | descending column => row ++ column ++ " DESC"

/-- The order of the rows, where there is one. -/
def orderText (row : String) (order : List Order) : String :=
  if order.isEmpty then "" else " ORDER BY " ++ commas (order.map (Order.text row))

/-- A clause with a value, where there is one. -/
def clause (head : String) : Option Operand → String
  | some o => head ++ o.text
  | none => ""

/-- How a locking read treats rows that somebody else holds. -/
def lockText : LockMode → String
  | .noWait => "FOR UPDATE NOWAIT"
  | .skipLocked => "FOR UPDATE SKIP LOCKED"

/-- All of the conditions. -/
def conditionsText (always : Bool) (cs : List Condition) : String :=
  " WHERE " ++ String.intercalate " AND "
    ((if always then ["TRUE"] else []) ++ cs.map Condition.text)

/-- The columns that a changing statement gives back. -/
def returningText (columns : List String) : String :=
  if columns.isEmpty then "" else " RETURNING " ++ commas columns

/-- A selection on one line. -/
def Selection.text (s : Selection) : String :=
  "SELECT " ++ commas s.columns ++ " FROM " ++ s.table ++ conditionsText s.open_ s.conditions ++
    orderText "" s.order ++ clause " LIMIT " s.limit ++ clause " OFFSET " s.offset ++
    match s.lock with
    | some mode => " " ++ lockText mode
    | none => ""

/-- A statement on one line. -/
def Statement.text : Statement → String
  | select s => s.text
  | count table cs => "SELECT COUNT(*) FROM " ++ table ++ conditionsText true cs
  | join s =>
    "SELECT " ++ commas (s.columns.map ("o." ++ ·)) ++ " FROM " ++ s.table ++ " o JOIN " ++
      s.other ++ " r ON r." ++ s.otherKey ++ " = o." ++ s.key ++
      conditionsText false (s.conditions.map (.of "r")) ++ orderText "o." s.order
  | having s =>
    "SELECT " ++ commas (s.columns.map ("o." ++ ·)) ++ " FROM " ++ s.table ++ " o" ++
      conditionsText false (s.conditions.map (.of "o")) ++ " AND EXISTS ( SELECT 1 FROM " ++
      s.other ++ " i WHERE i." ++ s.link ++ " = o.id AND " ++
      String.intercalate " AND " ((s.otherConditions.map (.of "i")).map Condition.text) ++ " )" ++
      orderText "o." s.order
  | insert s =>
    let blank := if s.spaced then " " else ""
    "INSERT INTO " ++ s.table ++ " (" ++ blank ++ commas s.columns ++ blank ++ ") VALUES " ++
      commas (s.rows.map fun row => "(" ++ commas (row.map Operand.text) ++ ")") ++
      returningText s.returning
  | update s =>
    "UPDATE " ++ s.table ++ " SET " ++
      commas (s.set_.map fun (column, o) => column ++ " = " ++ o.text) ++
      conditionsText false s.conditions ++ returningText s.returning
  | delete table cs => "DELETE FROM " ++ table ++ conditionsText false cs
  | ping => "SELECT 1"
  | tableExists =>
    "SELECT EXISTS ( SELECT 1 FROM information_schema.tables " ++
      "WHERE table_schema = 'public' AND table_name = $1 )"

/-- A statement with the values bound to its places. -/
structure Query where
  statement : Statement
  params : List Value

end Sql
end LoanDesk
