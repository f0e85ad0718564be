/-
# Offers and their lines

`domain/entities`: `LoanPackageOffer` as `Offer`, `LoanPackageOfferInterest` as `Line`,
`SubmissionSheet` as `Sheet`, `OfferWithDetails` as `OfferDetails`; the drafts are
`NewLoanPackageOffer` and `NewOfferInterest`.

An administrator answers a request with an offer of one or more lines, each a loan package of its
own. A line is created pending. With the offer goes a sheet, a snapshot of the terms submitted.

A cancelled line carries the reason, the name of who cancelled it and the time.
-/

import LoanDesk.Request

namespace LoanDesk

/-- An offer before it is stored. -/
structure OfferDraft where
  request : Int
  offeredBy : String
  flow : Flow
  expiredAt : Option Instant
  deriving DecidableEq

/-- A stored offer; its lines are stored on their own. -/
structure Offer where
  id : Int
  request : Int
  offeredBy : String
  flow : Flow
  expiredAt : Option Instant
  createdAt : Instant
  deriving DecidableEq

/-- A line before it is stored. -/
structure LineDraft where
  loan : Int
  scoreGroup : Option Int
  limitAmount : Decimal
  loanRate : Decimal
  interestRate : Decimal
  termDays : Int
  deriving DecidableEq

/-- A stored line of an offer. -/
structure Line where
  id : Int
  offer : Int
  request : Int
  loan : Int
  scoreGroup : Option Int
  limitAmount : Decimal
  loanRate : Decimal
  interestRate : Decimal
  termDays : Int
  status : LineStatus
  cancelReason : CancelReason
  cancelledBy : Option String
  cancelledAt : Option Instant
  contract : Option Int
  createdAt : Instant
  updatedAt : Instant
  deriving DecidableEq

/-- The terms that were submitted with an offer. -/
structure Sheet where
  id : Int
  request : Int
  submittedBy : String
  terms : Json
  createdAt : Instant

/-- An offer with its request and its lines, the newest first. -/
structure OfferDetails where
  offer : Offer
  request : Request
  lines : List Line
  deriving DecidableEq

namespace OfferDraft

/-- The stored offer. -/
def toOffer (d : OfferDraft) (id : Int) (now : Instant) : Offer :=
  { id, request := d.request, offeredBy := d.offeredBy, flow := d.flow, expiredAt := d.expiredAt,
    createdAt := now }

instance : Coded OfferDraft where
  toJson d := .obj
    [("request_id", toJson d.request), ("offered_by", toJson d.offeredBy),
      ("flow_type", toJson d.flow), ("expired_at", toJson d.expiredAt)]
  ofJson? j := do
    let r ← j.record? ["request_id", "offered_by", "flow_type", "expired_at"]
    return {
      request := ← r.required "request_id"
      offeredBy := ← r.required "offered_by"
      flow := ← r.required "flow_type"
      expiredAt := ← r.optional "expired_at" }

end OfferDraft

namespace Offer

/-- The time for accepting the offer has passed. -/
def isExpired (o : Offer) (now : Instant) : Bool :=
  match o.expiredAt with
  | some at_ => at_ < now
  | none => false

instance : Coded Offer where
  toJson o := .obj
    [("id", toJson o.id), ("request_id", toJson o.request), ("offered_by", toJson o.offeredBy),
      ("flow_type", toJson o.flow), ("expired_at", toJson o.expiredAt),
      ("created_at", toJson o.createdAt)]
  ofJson? j := do
    let r ← j.record? ["id", "request_id", "offered_by", "flow_type", "expired_at", "created_at"]
    return {
      id := ← r.required "id"
      request := ← r.required "request_id"
      offeredBy := ← r.required "offered_by"
      flow := ← r.required "flow_type"
      expiredAt := ← r.optional "expired_at"
      createdAt := ← r.required "created_at" }

end Offer

/-- A count of days: a whole number of 32 bits with a sign. -/
def dayCount? (j : Json) : Option Int := j.intWithin? (-2147483648) 2147483647

/-- A count of days in a field that has to be there. -/
def days? (r : Record) (name : String) : Option Int :=
  match r name with
  | .value j => dayCount? j
  | _ => none

namespace LineDraft

/-- The first rule that a draft breaks. -/
def flaw? (d : LineDraft) : Option Flaw :=
  let outside (rate : Decimal) : Bool := rate < Decimal.zero || Decimal.one < rate
  if d.limitAmount ≤ Decimal.zero then some (.lineLimit d.loan)
  else if outside d.loanRate then some (.lineLoanRate d.loan d.loanRate)
  else if outside d.interestRate then some (.lineInterestRate d.loan d.interestRate)
  else if d.termDays ≤ 0 then some (.lineTerm d.loan)
  else none

/-- The stored line, pending. -/
def toLine (d : LineDraft) (id offer request : Int) (now : Instant) : Line :=
  { id, offer, request, loan := d.loan, scoreGroup := d.scoreGroup, limitAmount := d.limitAmount,
    loanRate := d.loanRate, interestRate := d.interestRate, termDays := d.termDays,
    status := .pending, cancelReason := .unknown, cancelledBy := none, cancelledAt := none,
    contract := none, createdAt := now, updatedAt := now }

instance : Coded LineDraft where
  toJson d := .obj
    [("loan_id", toJson d.loan), ("score_group_id", toJson d.scoreGroup),
      ("limit_amount", toJson d.limitAmount), ("loan_rate", toJson d.loanRate),
      ("interest_rate", toJson d.interestRate), ("term_days", toJson d.termDays)]
  ofJson? j := do
    let r ← j.record?
      ["loan_id", "score_group_id", "limit_amount", "loan_rate", "interest_rate", "term_days"]
    return {
      loan := ← r.required "loan_id"
      scoreGroup := ← r.defaulted "score_group_id" none
      limitAmount := ← r.required "limit_amount"
      loanRate := ← r.required "loan_rate"
      interestRate := ← r.required "interest_rate"
      termDays := ← days? r "term_days" }

end LineDraft

namespace Line

/-- The line is open. -/
def isPending (l : Line) : Bool := l.status == .pending

/-- The line in a given status. -/
def withStatus (l : Line) (status : LineStatus) (now : Instant) : Line :=
  { l with status, updatedAt := now }

/-- The line with its contract. -/
def withContract (l : Line) (contract : Int) (now : Instant) : Line :=
  { l with contract := some contract, updatedAt := now }

/-- The line cancelled, stamped with the reason, the name and the time. -/
def cancelled (l : Line) (by_ : String) (reason : CancelReason) (now : Instant) : Line :=
  { l with
    status := .cancelled, cancelReason := reason, cancelledBy := some by_, cancelledAt := some now,
    updatedAt := now }

instance : Coded Line where
  toJson l := .obj
    [("id", toJson l.id), ("offer_id", toJson l.offer), ("request_id", toJson l.request),
      ("loan_id", toJson l.loan), ("score_group_id", toJson l.scoreGroup),
      ("limit_amount", toJson l.limitAmount), ("loan_rate", toJson l.loanRate),
      ("interest_rate", toJson l.interestRate), ("term_days", toJson l.termDays),
      ("status", toJson l.status), ("cancelled_reason", toJson l.cancelReason),
      ("cancelled_by", toJson l.cancelledBy), ("cancelled_at", toJson l.cancelledAt),
      ("contract_id", toJson l.contract), ("created_at", toJson l.createdAt),
      ("updated_at", toJson l.updatedAt)]
  ofJson? j := do
    let r ← j.record?
      ["id", "offer_id", "request_id", "loan_id", "score_group_id", "limit_amount", "loan_rate",
        "interest_rate", "term_days", "status", "cancelled_reason", "cancelled_by", "cancelled_at",
        "contract_id", "created_at", "updated_at"]
    return {
      id := ← r.required "id"
      offer := ← r.required "offer_id"
      request := ← r.required "request_id"
      loan := ← r.required "loan_id"
      scoreGroup := ← r.optional "score_group_id"
      limitAmount := ← r.required "limit_amount"
      loanRate := ← r.required "loan_rate"
      interestRate := ← r.required "interest_rate"
      termDays := ← days? r "term_days"
      status := ← r.required "status"
      cancelReason := ← r.required "cancelled_reason"
      cancelledBy := ← r.optional "cancelled_by"
      cancelledAt := ← r.optional "cancelled_at"
      contract := ← r.optional "contract_id"
      createdAt := ← r.required "created_at"
      updatedAt := ← r.required "updated_at" }

end Line

namespace Sheet

instance : Coded Sheet where
  toJson s := .obj
    [("id", toJson s.id), ("request_id", toJson s.request), ("submitted_by", toJson s.submittedBy),
      ("terms", s.terms), ("created_at", toJson s.createdAt)]
  ofJson? j := do
    let r ← j.record? ["id", "request_id", "submitted_by", "terms", "created_at"]
    return {
      id := ← r.required "id"
      request := ← r.required "request_id"
      submittedBy := ← r.required "submitted_by"
      terms := ← r.required "terms"
      createdAt := ← r.required "created_at" }

end Sheet

namespace OfferDetails

instance : Coded OfferDetails where
  toJson d := .obj
    [("offer", toJson d.offer), ("request", toJson d.request), ("interests", toJson d.lines)]
  ofJson? j := do
    let r ← j.record? ["offer", "request", "interests"]
    return {
      offer := ← r.required "offer"
      request := ← r.required "request"
      lines := ← r.required "interests" }

end OfferDetails
end LoanDesk
