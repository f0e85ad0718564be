/-
# Contracts

`domain/entities`: `NewLoanContract` as `ContractDraft`, `LoanContract` as `Contract`.

A contract is written once for an accepted line. It takes the investor, the account and the symbol
from the request and the loan from the line; the end of its guarantee is set later.
-/

import LoanDesk.Offer

namespace LoanDesk

/-- A contract before it is stored. -/
structure ContractDraft where
  request : Int
  line : Int
  investor : Int
  account : String
  symbol : Int
  loan : Int
  deriving DecidableEq

/-- A stored contract. -/
structure Contract where
  id : Int
  request : Int
  line : Int
  investor : Int
  account : String
  symbol : Int
  loan : Int
  guaranteeEndedAt : Option Instant
  createdAt : Instant
  deriving DecidableEq

namespace ContractDraft

/-- The contract for a line of a request. -/
def forLine (r : Request) (l : Line) : ContractDraft :=
  { request := r.id, line := l.id, investor := r.investor, account := r.account,
    symbol := r.symbol, loan := l.loan }

/-- The stored contract. -/
def toContract (d : ContractDraft) (id : Int) (now : Instant) : Contract :=
  { id, request := d.request, line := d.line, investor := d.investor, account := d.account,
    symbol := d.symbol, loan := d.loan, guaranteeEndedAt := none, createdAt := now }

/-- The fields of a draft as an object. -/
def toObject (d : ContractDraft) : Json := .obj
  [("request_id", toJson d.request), ("interest_id", toJson d.line),
    ("investor_id", toJson d.investor), ("account_no", toJson d.account),
    ("symbol_id", toJson d.symbol), ("loan_id", toJson d.loan)]

end ContractDraft

instance : Coded Contract where
  toJson c := .obj
    [("id", toJson c.id), ("request_id", toJson c.request), ("interest_id", toJson c.line),
      ("investor_id", toJson c.investor), ("account_no", toJson c.account),
      ("symbol_id", toJson c.symbol), ("loan_id", toJson c.loan),
      ("guarantee_ended_at", toJson c.guaranteeEndedAt), ("created_at", toJson c.createdAt)]
  ofJson? j := do
    let r ← j.record?
      ["id", "request_id", "interest_id", "investor_id", "account_no", "symbol_id", "loan_id",
        "guarantee_ended_at", "created_at"]
    return {
      id := ← r.required "id"
      request := ← r.required "request_id"
      line := ← r.required "interest_id"
      investor := ← r.required "investor_id"
      account := ← r.required "account_no"
      symbol := ← r.required "symbol_id"
      loan := ← r.required "loan_id"
      guaranteeEndedAt := ← r.optional "guarantee_ended_at"
      createdAt := ← r.required "created_at" }

end LoanDesk
