/-
# JSON values

The values that `domain/entities` keeps as they are: the `terms` of a sheet and the `tracking_data`
of a job.

Numbers are whole where they were written without point and exponent and fit 64 bits; any other
number is a binary one. The fields of an object stand in the order in which they were written.
-/

import LoanDesk.Number.Binary64

namespace LoanDesk

/-- A JSON value. -/
inductive Json where
  | null
  | bool (b : Bool)
  | int (n : Int)
  | float (x : Binary64)
  | str (s : String)
  | arr (items : List Json)
  | obj (fields : List (String × Json))
  deriving BEq

namespace Json

/-- The last field of that name: a later field takes the place of an earlier one. -/
def lastField? (fields : List (String × Json)) (name : String) : Option Json :=
  (fields.reverse.find? fun f => f.1 == name).map (·.2)

/-- The field of an object; none of anything else. -/
def field? (name : String) : Json → Option Json
  | .obj fields => lastField? fields name
  | _ => none

/-- The value is `null`. -/
def isNull : Json → Bool
  | .null => true
  | _ => false

end Json
end LoanDesk
