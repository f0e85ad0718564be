/-
# Commands

`workflow/commands`: a command such as `CreateRequestCommand` is `OpenRequest` here, a result such
as `AcceptResult` is `AcceptOutcome`.

What callers ask of the desk, and what they are told when it is done. A draft of a request as a
command has the fields of its terms beside its own.

An outcome that was followed by an event says why the event was not delivered, if it was not.
-/

import LoanDesk.Contract
import LoanDesk.Filter
import LoanDesk.Standing

namespace LoanDesk

/-- A draft whose terms stand beside its own fields. -/
structure OpenRequest where
  draft : RequestDraft
  deriving DecidableEq

/-- An offer to be made for an open request. -/
structure Proposal where
  request : Int
  flow : Flow
  expiredAt : Option Instant
  terms : Json
  lines : List LineDraft

/-- A request to be confirmed with a loan that was offered for it. -/
structure Confirmation where
  request : Int
  loan : Int
  deriving DecidableEq

/-- A line of an offer that the investor takes. -/
structure Acceptance where
  offer : Int
  line : Int
  deriving DecidableEq

/-- The lines with these loans are to be cancelled. -/
structure Cancellation where
  request : Int
  loans : List Int
  forInvestor : Bool
  deriving DecidableEq

namespace OpenRequest

instance : Coded OpenRequest where
  toJson c := .obj <|
    [("symbol_id", toJson c.draft.symbol), ("investor_id", toJson c.draft.investor),
      ("account_no", toJson c.draft.account), ("request_type", toJson c.draft.kind),
      ("asset_type", toJson c.draft.terms.asset)] ++ c.draft.terms.fields
  ofJson? j := do
    let r ← j.object? ["symbol_id", "investor_id", "account_no", "request_type"]
    return ⟨{
      symbol := ← r.required "symbol_id"
      investor := ← r.required "investor_id"
      account := ← r.required "account_no"
      kind := ← r.required "request_type"
      terms := ← Terms.ofObject? Terms.tagOrPlace? j }⟩

end OpenRequest

namespace Proposal

/-- A proposal for a given request, in a record. -/
def ofRecord? (request : Int) (r : Record) : Option Proposal := do
  return {
    request
    flow := ← r.required "flow_type"
    expiredAt := ← r.defaulted "expired_at" none
    terms := ← r.defaulted "terms" .null
    lines := ← r.required "interests" }

instance : Coded Proposal where
  toJson c := .obj
    [("request_id", toJson c.request), ("flow_type", toJson c.flow),
      ("expired_at", toJson c.expiredAt), ("terms", c.terms), ("interests", toJson c.lines)]
  ofJson? j := do
    let r ← j.record? ["request_id", "flow_type", "expired_at", "terms", "interests"]
    ofRecord? (← r.required "request_id") r

end Proposal

instance : Coded Confirmation where
  toJson c := .obj [("request_id", toJson c.request), ("loan_id", toJson c.loan)]
  ofJson? j := do
    let r ← j.record? ["request_id", "loan_id"]
    return ⟨← r.required "request_id", ← r.required "loan_id"⟩

instance : Coded Acceptance where
  toJson c := .obj [("offer_id", toJson c.offer), ("interest_id", toJson c.line)]
  ofJson? j := do
    let r ← j.record? ["offer_id", "interest_id"]
    return ⟨← r.required "offer_id", ← r.required "interest_id"⟩

instance : Coded Cancellation where
  toJson c := .obj
    [("request_id", toJson c.request), ("loan_ids", toJson c.loans),
      ("on_behalf_of_investor", toJson c.forInvestor)]
  ofJson? j := do
    let r ← j.record? ["request_id", "loan_ids", "on_behalf_of_investor"]
    return {
      request := ← r.required "request_id"
      loans := ← r.required "loan_ids"
      forInvestor := ← r.defaulted "on_behalf_of_investor" false }

/-- A proposal that was stored. -/
structure ProposalOutcome where
  sheet : Sheet
  offer : Offer
  lines : List Line
  undelivered : Option String

/-- A line that was accepted. -/
structure AcceptOutcome where
  request : Int
  offer : Int
  line : Line
  contract : Option Contract
  cancelledSiblings : Nat
  cancelledOthers : Nat
  undelivered : Option String
  deriving DecidableEq

/-- A line that got its contract. -/
structure PackageOutcome where
  line : Line
  contract : Contract
  deriving DecidableEq

/-- Lines that an administrator cancelled. -/
structure CancelOutcome where
  request : Int
  cancelled : List Int
  status : RequestStatus
  standing : Standing
  undelivered : Option String
  deriving DecidableEq

/-- An offer that the investor turned down. -/
structure DeclineOutcome where
  offer : Int
  request : Int
  cancelled : Nat
  standing : Standing
  deriving DecidableEq

/-- A symbol that was withdrawn. -/
structure WithdrawOutcome where
  symbol : Int
  requests : List Int
  cancelled : Nat
  undelivered : List String
  deriving DecidableEq

/-- A page of overviews and how many there are in all. -/
structure OverviewPage where
  items : List RequestOverview
  total : Int
  page : Page
  deriving DecidableEq

/-- The field for an event that was not delivered, left out where it was. -/
def undeliveredField : Option String → List (String × Json)
  | some text => [("dispatch_error", .str text)]
  | none => []

/-- The JSON object of a stored proposal. -/
def ProposalOutcome.toObject (o : ProposalOutcome) : Json := .obj <|
  [("submission_sheet", toJson o.sheet), ("offer", toJson o.offer),
    ("interests", toJson o.lines)] ++ undeliveredField o.undelivered

/-- The JSON object of an accepted line. -/
def AcceptOutcome.toObject (o : AcceptOutcome) : Json := .obj <|
  [("request_id", toJson o.request), ("offer_id", toJson o.offer), ("interest", toJson o.line),
    ("contract", toJson o.contract), ("cancelled_siblings", toJson o.cancelledSiblings),
    ("cancelled_other_offers", toJson o.cancelledOthers)] ++ undeliveredField o.undelivered

/-- The JSON object of a line with its contract. -/
def PackageOutcome.toObject (o : PackageOutcome) : Json := .obj
  [("interest", toJson o.line), ("contract", toJson o.contract)]

/-- The JSON object of cancelled lines. -/
def CancelOutcome.toObject (o : CancelOutcome) : Json := .obj <|
  [("request_id", toJson o.request), ("cancelled_interest_ids", toJson o.cancelled),
    ("request_status", toJson o.status), ("combined_status", toJson o.standing)] ++
    undeliveredField o.undelivered

/-- The JSON object of a declined offer. -/
def DeclineOutcome.toObject (o : DeclineOutcome) : Json := .obj
  [("offer_id", toJson o.offer), ("request_id", toJson o.request),
    ("cancelled", toJson o.cancelled), ("combined_status", toJson o.standing)]

/-- The JSON object of a withdrawn symbol. -/
def WithdrawOutcome.toObject (o : WithdrawOutcome) : Json := .obj <|
  [("symbol_id", toJson o.symbol), ("request_ids", toJson o.requests),
    ("cancelled_interests", toJson o.cancelled)] ++
    if o.undelivered.isEmpty then [] else [("dispatch_errors", toJson o.undelivered)]

/-- The JSON object of a page. -/
def OverviewPage.toObject (o : OverviewPage) : Json := .obj
  [("items", toJson o.items), ("total", toJson o.total), ("limit", toJson o.page.limit),
    ("offset", toJson o.page.offset)]

end LoanDesk
