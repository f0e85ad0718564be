/-
# Faults

Stands for the failures that `store` allows each operation (`StoreError` of `store/error`).

A fault makes a store operation fail: so many of its calls pass, then so many fail, then they pass
again. An operation has one fault at most.
-/

import LoanDesk.Failure

namespace LoanDesk

/-- How many calls pass, how many fail after them, all where that is not said, and with what. -/
structure Fault where
  operation : String
  error : StoreError
  skip : Nat
  times : Option Nat
  deriving DecidableEq

namespace Fault

/-- The faults with a new one, in place of that of the same operation. -/
def add (f : Fault) (fs : List Fault) : List Fault :=
  f :: fs.filter (·.operation != f.operation)

/-- One call of the faulty operation: its error, and the fault afterwards. -/
def strike (f : Fault) : Option StoreError × Fault :=
  if 0 < f.skip then (none, { f with skip := f.skip - 1 })
  else match f.times with
    | none => (some f.error, f)
    | some 0 => (none, f)
    | some (n + 1) => (some f.error, { f with times := some n })

/-- One call of an operation under faults. -/
def strikeAll (operation : String) : List Fault → Option StoreError × List Fault
  | [] => (none, [])
  | f :: fs =>
    if f.operation = operation then let r := f.strike; (r.1, r.2 :: fs)
    else let r := strikeAll operation fs; (r.1, f :: r.2)

end Fault
end LoanDesk
