/-
# Store calls

`store`: `RequestStore`, `OfferStore`, `ContractStore` and `SchedulerStore`, one call for each of
their methods, and `LockMode`; SPEC_FULL.md, 4.1, 4.2 and 11.

Everything that a transaction may ask of a store. A call is a value; `Answer` is the type of what it
gives. Locking reads and writes take row locks on requests and lines: a call that needs a row which
another transaction holds fails at once, except that claims pass over such rows.

Cancelling calls stamp the lines that are pending and leave all others alone.
-/

import LoanDesk.Contract
import LoanDesk.Failure
import LoanDesk.Filter
import LoanDesk.Schedule

namespace LoanDesk

/-- What a locking read does about a row that somebody else holds: fail, or take it for missing. -/
inductive LockMode where
  | noWait
  | skipLocked
  deriving DecidableEq

/-- A call of a transaction on its store. -/
inductive Call where
  | createRequest (draft : RequestDraft) (now : Instant)
  | getRequest (id : Int)
  | lockRequest (id : Int) (mode : LockMode)
  | setRequestStatus (id : Int) (status : RequestStatus) (now : Instant)
  | setRequestStatuses (ids : List Int) (status : RequestStatus) (now : Instant)
  | listRequests (filter : RequestFilter) (page : Page)
  | countRequests (filter : RequestFilter)
  | claimAboveRate (rate : Decimal) (limit : Int)
  | claimBySymbol (symbol : Int)
  | deleteRequest (id : Int)
  | createOffer (draft : OfferDraft) (now : Instant)
  | createLines (offer request : Int) (drafts : List LineDraft) (now : Instant)
  | offerWithRequest (offer : Int)
  | offersOfRequest (request : Int)
  | offersOfInvestor (investor : Int)
  | getLine (id : Int)
  | linesOfRequests (requests : List Int)
  | expiredOffers (now : Instant)
  | lockLinesOfOffer (offer : Int)
  | cancelByOffer (offer : Int) (by_ : String) (reason : CancelReason) (now : Instant)
  | cancelExpired (offers : List Int) (by_ : String) (now : Instant)
  | cancelLines (ids : List Int) (by_ : String) (reason : CancelReason) (now : Instant)
  | cancelByRequests (requests : List Int) (by_ : String) (reason : CancelReason) (now : Instant)
  | setLineStatuses (ids : List Int) (status : LineStatus) (now : Instant)
  | attachContract (line contract : Int) (now : Instant)
  | createSheet (request : Int) (by_ : String) (terms : Json) (now : Instant)
  | createContract (draft : ContractDraft) (now : Instant)
  | getContract (id : Int)
  | contractOfLine (line : Int)
  | setGuaranteeEnd (id : Int) (at_ : Instant)
  | currentCeiling (now : Instant)
  | createCeiling (rate : Decimal) (affectedFrom now : Instant)
  | createJob (entry : JobEntry) (now : Instant)
  | listJobs (kind : Option JobKind) (limit : Int)

namespace Call

/-- What a call gives. -/
abbrev Answer : Call → Type
  | createRequest _ _ | getRequest _ | lockRequest _ _ => Request
  | setRequestStatus _ _ _ | deleteRequest _ | attachContract _ _ _ => Unit
  | setRequestStatuses _ _ _ => Nat
  | listRequests _ _ | claimAboveRate _ _ | claimBySymbol _ => List Request
  | countRequests _ => Int
  | createOffer _ _ => Offer
  | createLines _ _ _ _ | linesOfRequests _ | lockLinesOfOffer _ => List Line
  | offerWithRequest _ => Offer × Request
  | offersOfRequest _ | expiredOffers _ => List Offer
  | offersOfInvestor _ => List OfferDetails
  | getLine _ => Line
  | cancelByOffer _ _ _ _ | cancelExpired _ _ _ | cancelLines _ _ _ _ | cancelByRequests _ _ _ _
  | setLineStatuses _ _ _ => Nat
  | createSheet _ _ _ _ => Sheet
  | createContract _ _ | getContract _ | setGuaranteeEnd _ _ => Contract
  | contractOfLine _ => Option Contract
  | currentCeiling _ => Option Ceiling
  | createCeiling _ _ _ => Ceiling
  | createJob _ _ => JobRecord
  | listJobs _ _ => List JobRecord

/-- The name under which a call is known outside. -/
def name : Call → String
  | createRequest _ _ => "create_request"
  | getRequest _ => "get_request_by_id"
  | lockRequest _ _ => "lock_request_by_id"
  | setRequestStatus _ _ _ => "update_request_status_by_id"
  | setRequestStatuses _ _ _ => "update_request_status_by_ids"
  | listRequests _ _ => "list_requests"
  | countRequests _ => "count_requests"
  | claimAboveRate _ _ => "lock_pending_above_rate"
  | claimBySymbol _ => "lock_pending_by_symbol"
  | deleteRequest _ => "delete_request_by_id"
  | createOffer _ _ => "create_offer"
  | createLines _ _ _ _ => "bulk_create_interests"
  | offerWithRequest _ => "find_offer_by_id_with_request"
  | offersOfRequest _ => "find_offers_by_request_id"
  | offersOfInvestor _ => "find_all_offers_for_investor"
  | getLine _ => "find_interest_by_id"
  | linesOfRequests _ => "find_interests_by_request_ids"
  | expiredOffers _ => "get_expired_offers"
  | lockLinesOfOffer _ => "get_interests_by_offer_id_with_lock"
  | cancelByOffer _ _ _ _ => "cancel_by_offer_id"
  | cancelExpired _ _ _ => "cancel_expired_offer_interests"
  | cancelLines _ _ _ _ => "cancel_interests_by_ids"
  | cancelByRequests _ _ _ _ => "cancel_pending_by_request_ids"
  | setLineStatuses _ _ _ => "update_interest_status"
  | attachContract _ _ _ => "attach_contract"
  | createSheet _ _ _ _ => "create_submission_sheet"
  | createContract _ _ => "create_contract"
  | getContract _ => "get_contract_by_id"
  | contractOfLine _ => "find_contract_by_interest_id"
  | setGuaranteeEnd _ _ => "update_guarantee_end"
  | currentCeiling _ => "get_current_scheduler_config"
  | createCeiling _ _ _ => "create_scheduler_config"
  | createJob _ _ => "create_scheduler_job"
  | listJobs _ _ => "list_scheduler_jobs"

/-- The JSON form of what a call gives. -/
def answerJson : (c : Call) → c.Answer → Json
  | createRequest _ _, a | getRequest _, a | lockRequest _ _, a => toJson a
  | setRequestStatus _ _ _, _ | deleteRequest _, _ | attachContract _ _ _, _ => .null
  | setRequestStatuses _ _ _, a => toJson a
  | listRequests _ _, a | claimAboveRate _ _, a | claimBySymbol _, a => toJson a
  | countRequests _, a => toJson a
  | createOffer _ _, a => toJson a
  | createLines _ _ _ _, a | linesOfRequests _, a | lockLinesOfOffer _, a => toJson a
  | offerWithRequest _, a => toJson a
  | offersOfRequest _, a | expiredOffers _, a => toJson a
  | offersOfInvestor _, a => toJson a
  | getLine _, a => toJson a
  | cancelByOffer _ _ _ _, a | cancelExpired _ _ _, a | cancelLines _ _ _ _, a
  | cancelByRequests _ _ _ _, a | setLineStatuses _ _ _, a => toJson a
  | createSheet _ _ _ _, a => toJson a
  | createContract _ _, a | getContract _, a | setGuaranteeEnd _ _, a => toJson a
  | contractOfLine _, a => toJson a
  | currentCeiling _, a => toJson a
  | createCeiling _ _ _, a => toJson a
  | createJob _ _, a => toJson a
  | listJobs _ _, a => toJson a

end Call

/-- The newest rows first: by the time of creation, then by number. -/
def newestFirst {α : Type} (key : α → Instant × Int) (rows : List α) : List α :=
  rows.mergeSort fun a b =>
    (key b).1 < (key a).1 || ((key b).1 == (key a).1 && (key b).2 ≤ (key a).2)

end LoanDesk
