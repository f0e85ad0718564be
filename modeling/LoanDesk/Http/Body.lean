/-
# Bodies

`api/routes`: the bodies of its handlers, such as `ProposeOfferRequest` and `CancelRequest`.

What the bodies of messages hold, endpoint by endpoint: the shape that a text is read for, and the
value that is made of what fits. A number of the path goes into the value where it has one.
-/

import LoanDesk.Desk.Command
import LoanDesk.Json.Shape

namespace LoanDesk
namespace Http

open Json (Shape)

/-- The shape of a body and the value in it. -/
structure Body (α : Type) where
  shape : Shape
  read : Json → Option α

namespace Body

/-- A body that holds the fields of a record. -/
def ofRecord {α : Type} (fields : List (String × Shape)) (read : Record → Option α) : Body α :=
  let read (j : Json) : Option α := (j.record? (fields.map (·.1))).bind read
  ⟨.record fields fun j => (read j).isSome, read⟩

/-- A draft of a request. The fields of its terms are read once all of them are there. -/
def openRequest : Body OpenRequest where
  shape := .extensible
    [("symbol_id", .of Int), ("investor_id", .of Int), ("account_no", .of String),
      ("request_type", .named RequestKind)]
    fun j => (ofJson? j : Option OpenRequest).isSome
  read := ofJson?

/-- A line of an offer. -/
def lineShape : Shape :=
  .fields LineDraft
    [("loan_id", .of Int), ("score_group_id", .optional (.of Int)), ("limit_amount", .of Decimal),
      ("loan_rate", .of Decimal), ("interest_rate", .of Decimal),
      ("term_days", .scalar fun j => (dayCount? j).isSome)]

/-- An offer for the request of the path; of repeated fields in its terms the last counts. -/
def proposal (request : Int) : Body Proposal :=
  ofRecord
    [("flow_type", .named Flow), ("expired_at", .optional (.of Instant)), ("terms", .any),
      ("interests", .list lineShape)]
    fun r => do
      let p ← Proposal.ofRecord? request r
      return { p with terms := p.terms.canonical }

/-- A loan that confirms the request of the path. -/
def confirmation (request : Int) : Body Confirmation :=
  ofRecord [("loan_id", .of Int)] fun r => do return ⟨request, ← r.required "loan_id"⟩

/-- The loans to be cancelled for the request of the path. -/
def cancellation (request : Int) : Body Cancellation :=
  ofRecord [("loan_ids", .list (.of Int)), ("on_behalf_of_investor", .of Bool)] fun r => do
    return {
      request
      loans := ← r.required "loan_ids"
      forInvestor := ← r.defaulted "on_behalf_of_investor" false }

/-- A line of the offer of the path. -/
def acceptance (offer : Int) : Body Acceptance :=
  ofRecord [("interest_id", .of Int)] fun r => do return ⟨offer, ← r.required "interest_id"⟩

/-- The end of a guarantee. -/
def guaranteeEnd : Body Instant :=
  ofRecord [("guarantee_ended_at", .of Instant)] (·.required "guarantee_ended_at")

/-- A ceiling, and from when on it is in force if that is said. -/
def ceiling : Body (Decimal × Option Instant) :=
  ofRecord [("maximum_loan_rate", .of Decimal), ("affected_from", .optional (.of Instant))]
    fun r => do
      return (← r.required "maximum_loan_rate", ← r.defaulted "affected_from" none)

end Body
end Http
end LoanDesk
