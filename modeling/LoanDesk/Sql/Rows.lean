/-
# Rows as entities

`store/postgres`: `RequestRow`, `OfferRow`, `InterestRow`, `ContractRow` and `JobRow` with their
conversions, as `readRequest` and so on; `parse` as `word`.

Reading a row takes two steps: first every column that must hold something is looked at, in order;
then the words in it are looked up, in order. So of two rows the second may fail the first step
before a word of the first is looked up.

A word outside its vocabulary makes the row corrupt. An offer without a flow has an unspecified one.
-/

import LoanDesk.Sql.Script

namespace LoanDesk
namespace Sql

/-- A step that looks at columns. -/
abbrev Cells := Except DatabaseError

/-- A step that looks words up. -/
abbrev Words := Except StoreError

/-- The value of a column, null where the row lacks it. -/
def cell (row : Row) (column : String) : Value :=
  match row.find? fun c => c.1 == column with
  | some c => c.2
  | none => .null

/-- A column that holds nothing. -/
def isNull {α : Type} (column : ColumnRef) : Cells α := .error (.columnIsNull column)

/-- A whole number in a column. -/
def intAt (row : Row) (column : String) : Cells Int :=
  match cell row column with
  | .int n => .ok n
  | _ => isNull (.name column)

/-- A whole number, or nothing, in a column. -/
def intAt? (row : Row) (column : String) : Option Int :=
  match cell row column with
  | .int n => some n
  | _ => none

/-- A decimal in a column. -/
def decimalAt (row : Row) (column : String) : Cells Decimal :=
  match cell row column with
  | .decimal d => .ok d
  | _ => isNull (.name column)

/-- A decimal, or nothing, in a column. -/
def decimalAt? (row : Row) (column : String) : Option Decimal :=
  match cell row column with
  | .decimal d => some d
  | _ => none

/-- A text in a column. -/
def textAt (row : Row) (column : String) : Cells String :=
  match cell row column with
  | .text s => .ok s
  | _ => isNull (.name column)

/-- A text, or nothing, in a column. -/
def textAt? (row : Row) (column : String) : Option String :=
  match cell row column with
  | .text s => some s
  | _ => none

/-- A time in a column. -/
def timeAt (row : Row) (column : String) : Cells Instant :=
  match cell row column with
  | .time t => .ok t
  | _ => isNull (.name column)

/-- A time, or nothing, in a column. -/
def timeAt? (row : Row) (column : String) : Option Instant :=
  match cell row column with
  | .time t => some t
  | _ => none

/-- A JSON value in a column. -/
def jsonAt (row : Row) (column : String) : Cells Json :=
  match cell row column with
  | .json j => .ok j
  | _ => isNull (.name column)

/-- The column is meant by its place. -/
def atPlace {α : Type} (index : Nat) (c : Cells α) : Cells α :=
  match c with
  | .error (.columnIsNull _) => isNull (.place index)
  | c => c

/-- The value that a word in a row of the table names. -/
def word {α : Type} [Vocabulary α] (table text : String) : Words α :=
  match Vocabulary.parse text with
  | .ok a => .ok a
  | .error refusal => .error (.corrupt table refusal)

/-- The table of requests. -/
def requestTable : String := "loan_package_requests"

/-- The table of offers. -/
def offerTable : String := "loan_package_offers"

/-- The table of lines. -/
def lineTable : String := "loan_package_offer_interests"

/-- The table of sheets. -/
def sheetTable : String := "submission_sheets"

/-- The table of contracts. -/
def contractTable : String := "loan_contracts"

/-- The table of ceilings. -/
def ceilingTable : String := "loan_request_scheduler_configs"

/-- The table of job records. -/
def jobTable : String := "scheduler_jobs"

/-- The columns of requests. -/
def requestColumns : List String :=
  ["id", "symbol_id", "investor_id", "account_no", "loan_rate", "limit_amount", "request_type",
    "asset_type", "initial_rate", "contract_size", "status", "created_at", "updated_at"]

/-- The columns of offers. -/
def offerColumns : List String :=
  ["id", "request_id", "offered_by", "flow_type", "expired_at", "created_at"]

/-- The columns of lines. -/
def lineColumns : List String :=
  ["id", "offer_id", "request_id", "loan_id", "score_group_id", "limit_amount", "loan_rate",
    "interest_rate", "term_days", "status", "cancelled_reason", "cancelled_by", "cancelled_at",
    "contract_id", "created_at", "updated_at"]

/-- The columns of contracts. -/
def contractColumns : List String :=
  ["id", "request_id", "interest_id", "investor_id", "account_no", "symbol_id", "loan_id",
    "guarantee_ended_at", "created_at"]

/-- The columns of ceilings. -/
def ceilingColumns : List String := ["id", "maximum_loan_rate", "affected_from", "created_at"]

/-- The columns of job records. -/
def jobColumns : List String :=
  ["id", "job_type", "status", "triggered_by", "tracking_data", "created_at"]

/-- A request in a row. -/
def readRequest (row : Row) : Cells (Words Request) := do
  let id ← intAt row "id"
  let symbol ← intAt row "symbol_id"
  let investor ← intAt row "investor_id"
  let account ← textAt row "account_no"
  let loanRate ← decimalAt row "loan_rate"
  let limitAmount ← decimalAt row "limit_amount"
  let kind ← textAt row "request_type"
  let asset ← textAt row "asset_type"
  let status ← textAt row "status"
  let createdAt ← timeAt row "created_at"
  let updatedAt ← timeAt row "updated_at"
  return do
    let kind ← word requestTable kind
    let asset ← word requestTable asset
    let status ← word requestTable status
    return {
      id, symbol, investor, account, loanRate, limitAmount, kind, asset
      initialRate := decimalAt? row "initial_rate"
      contractSize := intAt? row "contract_size"
      status, createdAt, updatedAt }

/-- An offer in a row. -/
def readOffer (row : Row) : Cells (Words Offer) := do
  let id ← intAt row "id"
  let request ← intAt row "request_id"
  let offeredBy ← textAt row "offered_by"
  let createdAt ← timeAt row "created_at"
  return do
    let flow ← match textAt? row "flow_type" with
      | some text => word offerTable text
      | none => pure .unspecified
    return { id, request, offeredBy, flow, expiredAt := timeAt? row "expired_at", createdAt }

/-- A line in a row. -/
def readLine (row : Row) : Cells (Words Line) := do
  let id ← intAt row "id"
  let offer ← intAt row "offer_id"
  let request ← intAt row "request_id"
  let loan ← intAt row "loan_id"
  let limitAmount ← decimalAt row "limit_amount"
  let loanRate ← decimalAt row "loan_rate"
  let interestRate ← decimalAt row "interest_rate"
  let termDays ← intAt row "term_days"
  let status ← textAt row "status"
  let cancelReason ← textAt row "cancelled_reason"
  let createdAt ← timeAt row "created_at"
  let updatedAt ← timeAt row "updated_at"
  return do
    let status ← word lineTable status
    let cancelReason ← word lineTable cancelReason
    return {
      id, offer, request, loan
      scoreGroup := intAt? row "score_group_id"
      limitAmount, loanRate, interestRate, termDays, status, cancelReason
      cancelledBy := textAt? row "cancelled_by"
      cancelledAt := timeAt? row "cancelled_at"
      contract := intAt? row "contract_id"
      createdAt, updatedAt }

/-- A contract in a row. -/
def readContract (row : Row) : Cells Contract := do
  return {
    id := ← intAt row "id"
    request := ← intAt row "request_id"
    line := ← intAt row "interest_id"
    investor := ← intAt row "investor_id"
    account := ← textAt row "account_no"
    symbol := ← intAt row "symbol_id"
    loan := ← intAt row "loan_id"
    guaranteeEndedAt := timeAt? row "guarantee_ended_at"
    createdAt := ← timeAt row "created_at" }

/-- A ceiling in a row, its columns taken by place. -/
def readCeiling (row : Row) : Cells Ceiling := do
  return {
    id := ← atPlace 0 (intAt row "id")
    maximumRate := ← atPlace 1 (decimalAt row "maximum_loan_rate")
    affectedFrom := ← atPlace 2 (timeAt row "affected_from")
    createdAt := ← atPlace 3 (timeAt row "created_at") }

/-- A job record in a row. -/
def readJob (row : Row) : Cells (Words JobRecord) := do
  let id ← intAt row "id"
  let kind ← textAt row "job_type"
  let status ← textAt row "status"
  let triggeredBy ← textAt row "triggered_by"
  let tracking ← jsonAt row "tracking_data"
  let createdAt ← timeAt row "created_at"
  return do
    let kind ← word jobTable kind
    let status ← word jobTable status
    return { id, kind, status, triggeredBy, tracking, createdAt }

/-- The number in the only column of a row. -/
def onlyInt (column : String) (row : Row) : Cells Int := atPlace 0 (intAt row column)

/-- Words are looked up row by row. -/
def lookUpAll {α : Type} (rows : List (Words α)) : Work (List α) :=
  ExceptT.mk (.done (rows.mapM id))

/-- All rows of a query as entities. -/
def allOf {α : Type} (read : Row → Cells (Words α)) (blame : ∀ {β}, Fetch β → Work β)
    (q : Query) : Work (List α) := do
  let rows ← blame do
    let rows ← fetchAll q
    ofDatabase (rows.mapM read)
  lookUpAll rows

/-- The only row of a query as an entity. -/
def oneOf {α : Type} (read : Row → Cells (Words α)) (blame : ∀ {β}, Fetch β → Work β)
    (q : Query) : Work α := do
  let row ← blame do
    let row ← fetchOne q
    ofDatabase (read row)
  ExceptT.mk (.done row)

/-- The only row of a query, which holds no words. -/
def plainOf {α : Type} (read : Row → Cells α) (q : Query) : Fetch α := do
  ofDatabase (read (← fetchOne q))

/-- The first row of a query, if there is one, which holds no words. -/
def firstOf {α : Type} (read : Row → Cells α) (q : Query) : Fetch (Option α) := do
  match ← fetchFirst q with
  | some row => ofDatabase ((read row).map some)
  | none => return none

end Sql
end LoanDesk
