/-
# Queries

`api/routes`: `ListRequestsQuery` as `ListQuery`, with `into_filter` as `filter`, and `JobsQuery`.

The part of a target behind its question mark: pairs of names and values, joined by ampersands. A
plus sign is a blank and percent escapes are bytes of UTF-8; bytes that are no text become U+FFFD.
Empty pieces are passed over, and a piece without an equals sign is a name with an empty value.

A known name may stand there once, unknown names are passed over.
-/

import LoanDesk.Filter
import LoanDesk.Text.Utf8

namespace LoanDesk
namespace Http

/-- A piece of a query in plain text. -/
def formText (cs : List Char) : String :=
  let plain := cs.map fun c => if c = '+' then ' ' else c
  Text.lossy (Text.percentDecode (Text.utf8Bytes (String.ofList plain)))

/-- The pairs of a query. -/
def queryPairs (query : List Char) : List (String × String) :=
  (query.splitOn '&').filterMap fun piece =>
    if piece.isEmpty then none
    else
      let name := piece.takeWhile (· ≠ '=')
      some (formText name, formText (piece.drop (name.length + 1)))

/-- The value under a name. -/
abbrev QueryFields := String → Option String

/-- The values under known names, where none of them is repeated. -/
def queryFields? (names : List String) (pairs : List (String × String)) : Option QueryFields :=
  if names.all fun n => (pairs.filter fun p => p.1 == n).length ≤ 1 then
    some fun name => (pairs.find? fun p => p.1 == name).map (·.2)
  else none

/-- A value that is read where there is one. -/
def readField? {α : Type} (read : String → Option α) : Option String → Option (Option α)
  | none => some none
  | some s => (read s).map some

/-- What a caller asks of the list of requests; words are not looked up yet. -/
structure ListQuery where
  symbol : Option Int
  investor : Option Int
  account : Option String
  status : Option String
  kind : Option String
  asset : Option String
  rateFrom : Option Decimal
  rateTo : Option Decimal
  createdFrom : Option Instant
  createdTo : Option Instant
  limit : Int
  offset : Int
  deriving DecidableEq

namespace ListQuery

/-- The query of a target. -/
def ofQuery? (query : List Char) : Option ListQuery := do
  let get ← queryFields?
    ["symbol_id", "investor_id", "account_no", "status", "request_type", "asset_type",
      "loan_rate_from", "loan_rate_to", "created_from", "created_to", "limit", "offset"]
    (queryPairs query)
  return {
    symbol := ← readField? Text.readInt64 (get "symbol_id")
    investor := ← readField? Text.readInt64 (get "investor_id")
    account := get "account_no"
    status := get "status"
    kind := get "request_type"
    asset := get "asset_type"
    rateFrom := ← readField? Decimal.ofText? (get "loan_rate_from")
    rateTo := ← readField? Decimal.ofText? (get "loan_rate_to")
    createdFrom := ← readField? Instant.ofText? (get "created_from")
    createdTo := ← readField? Instant.ofText? (get "created_to")
    limit := (← readField? Text.readInt64 (get "limit")).getD 50
    offset := (← readField? Text.readInt64 (get "offset")).getD 0 }

/-- A word that is looked up where there is one. -/
def lookUp {α : Type} [Vocabulary α] : Option String → Except Refusal (Option α)
  | none => .ok none
  | some s => (Vocabulary.parse s).map some

/-- The filter and the page of a query. -/
def filter (q : ListQuery) : Except Refusal (RequestFilter × Page) := do
  let status ← lookUp q.status
  let kind ← lookUp q.kind
  let asset ← lookUp q.asset
  return ({
    symbol := q.symbol
    investor := q.investor
    account := q.account
    status, kind, asset
    rateFrom := q.rateFrom
    rateTo := q.rateTo
    createdFrom := q.createdFrom
    createdTo := q.createdTo }, Page.clamped q.limit q.offset)

end ListQuery

/-- What a caller asks of the list of job records. -/
structure JobsQuery where
  kind : Option String
  limit : Int
  deriving DecidableEq

/-- The query of a target. -/
def JobsQuery.ofQuery? (query : List Char) : Option JobsQuery := do
  let get ← queryFields? ["job_type", "limit"] (queryPairs query)
  return ⟨get "job_type", (← readField? Text.readInt64 (get "limit")).getD 50⟩

end Http
end LoanDesk
