/-
# Values of a database

`store/postgres`: what its queries bind, and what the columns of
`migrations/001_loan_package_schema` hold.

What is bound to the places of a statement and what the columns of a row hold. On its way to the
server and back a value loses what the server does not keep: the places of a zero, and what is below
a microsecond, which is cut towards the start of 2000 on the way there and towards the past on the
way back. JSON travels as text.
-/

import LoanDesk.Json.Printer
import LoanDesk.Json.Record

namespace LoanDesk
namespace Sql

/-- A value of a database. -/
inductive Value where
  | null
  | bool (b : Bool)
  | int (n : Int)
  | ints (ns : List Int)
  | decimal (d : Decimal)
  | text (s : String)
  | time (t : Instant)
  | json (j : Json)

/-- A row: its columns with their values. -/
abbrev Row := List (String × Value)

namespace Value

/-- A value that may be missing. -/
def ofOption {α : Type} (f : α → Value) : Option α → Value
  | some a => f a
  | none => null

/-- What the server gets of a value. -/
def sent : Value → Value
  | decimal d => decimal d.bare
  | time t => time t.toMicros
  | json j => json j.carried
  | v => v

/-- What comes back of a value from the server. -/
def received : Value → Value
  | decimal d => decimal d.bare
  | time t => time t.floorMicros
  | json j => json j.carried
  | v => v

/-- The JSON form of a value. -/
def toJson : Value → Json
  | null => .null
  | bool b => .bool b
  | int n => .int n
  | ints ns => .arr (ns.map .int)
  | decimal d => .str d.text
  | text s => .str s
  | time t => .str t.text
  | json j => j

end Value

/-- What a column holds. -/
inductive ColumnType where
  | bool
  | int
  | decimal
  | text
  | time
  | json
  deriving DecidableEq

namespace ColumnType

/-- What the columns hold, by name; a name means the same in every table. -/
def ofName (column : String) : ColumnType :=
  if ["loan_rate", "limit_amount", "initial_rate", "interest_rate", "maximum_loan_rate"].contains
    column then decimal
  else if ["created_at", "updated_at", "expired_at", "cancelled_at", "guarantee_ended_at",
    "affected_from"].contains column then time
  else if ["account_no", "request_type", "asset_type", "status", "offered_by", "flow_type",
    "cancelled_reason", "cancelled_by", "submitted_by", "job_type", "triggered_by"].contains
    column then text
  else if ["terms", "tracking_data"].contains column then json
  else if column = "exists" then bool
  else int

/-- The value of a column in JSON. -/
def read? (type : ColumnType) (j : Json) : Option Value :=
  if j.isNull then some .null
  else match type with
    | bool => (ofJson? j).map .bool
    | int => (ofJson? j).map .int
    | decimal => (ofJson? j).map .decimal
    | text => (ofJson? j).map .text
    | time => (ofJson? j).map .time
    | json => some (.json j)

end ColumnType

/-- The row in a JSON object, as it arrives. -/
def rowOfJson? : Json → Option Row
  | .obj fields => fields.mapM fun (name, j) => do
    return (name, (← (ColumnType.ofName name).read? j).received)
  | _ => none

end Sql
end LoanDesk
