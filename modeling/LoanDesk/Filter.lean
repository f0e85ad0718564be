/-
# Filters and pages

`domain/filter`: `RequestFilter`, with `Filter` as an option, and `Page`.

A filter selects requests: every field that is set has to fit, bounds included. A page is a stretch
of an ordered list; those that callers ask for have between 1 and 500 entries.
-/

import LoanDesk.Request

namespace LoanDesk

/-- Which requests are wanted. -/
structure RequestFilter where
  symbol : Option Int := none
  investor : Option Int := none
  account : Option String := none
  status : Option RequestStatus := none
  kind : Option RequestKind := none
  asset : Option AssetKind := none
  rateFrom : Option Decimal := none
  rateTo : Option Decimal := none
  createdFrom : Option Instant := none
  createdTo : Option Instant := none
  deriving DecidableEq

/-- A condition that holds where nothing is asked for. -/
def accepts {α : Type} (wanted : Option α) (p : α → Bool) : Bool :=
  match wanted with
  | some a => p a
  | none => true

/-- The request fits every field that is set. -/
def RequestFilter.accepts (f : RequestFilter) (r : Request) : Bool :=
  LoanDesk.accepts f.symbol (r.symbol == ·) &&
  LoanDesk.accepts f.investor (r.investor == ·) &&
  LoanDesk.accepts f.account (r.account == ·) &&
  LoanDesk.accepts f.status (r.status == ·) &&
  LoanDesk.accepts f.kind (r.kind == ·) &&
  LoanDesk.accepts f.asset (r.asset == ·) &&
  LoanDesk.accepts f.rateFrom (· ≤ r.loanRate) &&
  LoanDesk.accepts f.rateTo (r.loanRate ≤ ·) &&
  LoanDesk.accepts f.createdFrom (· ≤ r.createdAt) &&
  LoanDesk.accepts f.createdTo (r.createdAt ≤ ·)

/-- So many entries after so many others. -/
structure Page where
  limit : Int
  offset : Int
  deriving DecidableEq

namespace Page

/-- The greatest number of entries that a caller gets. -/
def maxLimit : Int := 500

/-- A limit between 1 and `maxLimit`. -/
def clampLimit (limit : Int) : Int := max 1 (min limit maxLimit)

/-- A page as callers get it. -/
def clamped (limit offset : Int) : Page := ⟨clampLimit limit, max offset 0⟩

/-- The page of a caller who names none. -/
def default : Page := clamped 50 0

/-- The entries of a page. A negative offset lies beyond every list, a negative limit sets none. -/
def slice {α : Type} (p : Page) (as : List α) : List α :=
  let rest := if p.offset < 0 then [] else as.drop p.offset.toNat
  if p.limit < 0 then rest else rest.take p.limit.toNat

instance : Coded Page where
  toJson p := .obj [("limit", toJson p.limit), ("offset", toJson p.offset)]
  ofJson? j := do
    let r ← j.record? ["limit", "offset"]
    return ⟨← r.required "limit", ← r.required "offset"⟩

end Page
end LoanDesk
