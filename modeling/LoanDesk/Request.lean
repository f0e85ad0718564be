/-
# Requests

`domain/entities`: `RequestTerms` as `Terms`, `NewLoanPackageRequest` as `RequestDraft`,
`LoanPackageRequest` as `Request`.

An investor asks for a loan on a symbol for one account. What the terms hold depends on what stands
behind the request:

| asset | terms | rules |
| --- | --- | --- |
| `UNDERLYING` | loan rate, limit amount | `0 < rate < 1`, `0 < limit` |
| `DERIVATIVE` | initial rate, contract size | `0.03 ≤ rate ≤ 0.3`, `0 < size` |

A stored request has all four; those of the other asset are zero or none.
-/

import LoanDesk.Refusal

namespace LoanDesk

/-- What an investor asks for. -/
inductive Terms where
  | underlying (loanRate limitAmount : Decimal)
  | derivative (initialRate : Decimal) (contractSize : Int)
  deriving DecidableEq

namespace Terms

/-- The least initial rate. -/
def minInitialRate : Decimal := ⟨3, 2, by decide, by decide⟩

/-- The greatest initial rate. -/
def maxInitialRate : Decimal := ⟨3, 1, by decide, by decide⟩

/-- What stands behind the terms. -/
def asset : Terms → AssetKind
  | underlying _ _ => .underlying
  | derivative _ _ => .derivative

/-- The first rule that the terms break. -/
def flaw? : Terms → Option Flaw
  | underlying rate limit =>
    if rate ≤ Decimal.zero || Decimal.one ≤ rate then some (.loanRate rate)
    else if limit ≤ Decimal.zero then some .limit
    else none
  | derivative rate size =>
    if rate < minInitialRate || maxInitialRate < rate then
      some (.initialRate minInitialRate maxInitialRate rate)
    else if size ≤ 0 then some .contractSize
    else none

/-- The fields of the terms without their tag. -/
def fields : Terms → List (String × Json)
  | underlying rate limit => [("loan_rate", toJson rate), ("limit_amount", toJson limit)]
  | derivative rate size => [("initial_rate", toJson rate), ("contract_size", toJson size)]

/-- The terms in the fields of a record. -/
def ofRecord? (asset : AssetKind) (r : List String → Option Record) : Option Terms :=
  match asset with
  | .underlying => do
    let r ← r ["loan_rate", "limit_amount"]
    return underlying (← r.required "loan_rate") (← r.required "limit_amount")
  | .derivative => do
    let r ← r ["initial_rate", "contract_size"]
    return derivative (← r.required "initial_rate") (← r.required "contract_size")

/-- The asset in a tag: its word. -/
def tag? : Json → Option AssetKind
  | .str s => Vocabulary.find? s
  | _ => none

/-- The asset in a tag that stands among the fields of something else: its word, or its place among
the assets. -/
def tagOrPlace? : Json → Option AssetKind
  | .int n => if 0 ≤ n then (Vocabulary.all : List AssetKind)[n.toNat]? else none
  | j => tag? j

/-- The terms among the fields of an object; the tag `asset_type` says which they are. -/
def ofObject? (tag? : Json → Option AssetKind) (j : Json) : Option Terms := do
  match (← j.object? ["asset_type"]) "asset_type" with
  | .value tag => ofRecord? (← tag? tag) j.object?
  | _ => none

instance : Coded Terms where
  toJson t := .obj (("asset_type", toJson t.asset) :: t.fields)
  ofJson?
    | .arr (tag :: rest) => do ofRecord? (← tag? tag) (Json.arr rest).positional?
    | j => ofObject? tag? j

end Terms

/-- A request before it is stored. -/
structure RequestDraft where
  symbol : Int
  investor : Int
  account : String
  kind : RequestKind
  terms : Terms
  deriving DecidableEq

/-- A stored request. -/
structure Request where
  id : Int
  symbol : Int
  investor : Int
  account : String
  loanRate : Decimal
  limitAmount : Decimal
  kind : RequestKind
  asset : AssetKind
  initialRate : Option Decimal
  contractSize : Option Int
  status : RequestStatus
  createdAt : Instant
  updatedAt : Instant
  deriving DecidableEq

namespace RequestDraft

/-- The first rule that a draft breaks. -/
def flaw? (d : RequestDraft) : Option Flaw :=
  if Text.isBlankText d.account then some .accountMissing else d.terms.flaw?

/-- The stored request, open. -/
def toRequest (d : RequestDraft) (id : Int) (now : Instant) : Request :=
  let (loanRate, limit, initialRate, size) := match d.terms with
    | .underlying rate limit => (rate, limit, none, none)
    | .derivative rate size => (Decimal.zero, Decimal.zero, some rate, some size)
  { id, symbol := d.symbol, investor := d.investor, account := d.account, loanRate,
    limitAmount := limit, kind := d.kind, asset := d.terms.asset, initialRate,
    contractSize := size, status := .pending, createdAt := now, updatedAt := now }

instance : Coded RequestDraft where
  toJson d := .obj
    [("symbol_id", toJson d.symbol), ("investor_id", toJson d.investor),
      ("account_no", toJson d.account), ("request_type", toJson d.kind), ("terms", toJson d.terms)]
  ofJson? j := do
    let r ← j.record? ["symbol_id", "investor_id", "account_no", "request_type", "terms"]
    return {
      symbol := ← r.required "symbol_id"
      investor := ← r.required "investor_id"
      account := ← r.required "account_no"
      kind := ← r.required "request_type"
      terms := ← r.required "terms" }

end RequestDraft

namespace Request

/-- The request is open. -/
def isPending (r : Request) : Bool := r.status == .pending

/-- Refuses a request that has been dealt with. -/
def ensurePending (r : Request) : Except Refusal Unit :=
  if r.isPending then .ok () else .error (.finalized r.id r.status)

/-- The names of the fields in order. -/
def fieldNames : List String :=
  ["id", "symbol_id", "investor_id", "account_no", "loan_rate", "limit_amount", "request_type",
    "asset_type", "initial_rate", "contract_size", "status", "created_at", "updated_at"]

/-- The fields of a request. -/
def fields (r : Request) : List (String × Json) :=
  [("id", toJson r.id), ("symbol_id", toJson r.symbol), ("investor_id", toJson r.investor),
    ("account_no", toJson r.account), ("loan_rate", toJson r.loanRate),
    ("limit_amount", toJson r.limitAmount), ("request_type", toJson r.kind),
    ("asset_type", toJson r.asset), ("initial_rate", toJson r.initialRate),
    ("contract_size", toJson r.contractSize), ("status", toJson r.status),
    ("created_at", toJson r.createdAt), ("updated_at", toJson r.updatedAt)]

/-- The request in a record. -/
def ofRecord? (r : Record) : Option Request := do
  return {
    id := ← r.required "id"
    symbol := ← r.required "symbol_id"
    investor := ← r.required "investor_id"
    account := ← r.required "account_no"
    loanRate := ← r.required "loan_rate"
    limitAmount := ← r.required "limit_amount"
    kind := ← r.required "request_type"
    asset := ← r.required "asset_type"
    initialRate := ← r.optional "initial_rate"
    contractSize := ← r.optional "contract_size"
    status := ← r.required "status"
    createdAt := ← r.required "created_at"
    updatedAt := ← r.required "updated_at" }

instance : Coded Request where
  toJson r := .obj r.fields
  ofJson? j := (j.record? fieldNames).bind ofRecord?

end Request
end LoanDesk
