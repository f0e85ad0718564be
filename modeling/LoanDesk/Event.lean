/-
# Events

`notification`: `LoanEvent` as `Event`, `NotifyError` as `DeliveryError`; SPEC_FULL.md, 11.6.

What investors are told, after the change has been stored: an offer is ready, a request was
confirmed, a request was declined. Delivery may fail; the change stands all the same.
-/

import LoanDesk.Contract

namespace LoanDesk

/-- The request that an event is about. -/
structure EventSubject where
  request : Int
  investor : Int
  account : String
  symbol : Int
  deriving DecidableEq

/-- The subject of events about a request. -/
def EventSubject.of (r : Request) : EventSubject := ⟨r.id, r.investor, r.account, r.symbol⟩

/-- What an investor is told. -/
inductive Event where
  | requestConfirmed (subject : EventSubject) (line : Int) (contract : Option Int)
  | offerReady (subject : EventSubject) (offer : Int)
  | requestDeclined (subject : EventSubject) (reason : CancelReason)
  deriving DecidableEq

namespace Event

/-- The name of an event. -/
def name : Event → String
  | requestConfirmed _ _ _ => "request_confirmed"
  | offerReady _ _ => "offer_ready"
  | requestDeclined _ _ => "request_declined"

/-- The request that the event is about. -/
def subject : Event → EventSubject
  | requestConfirmed subject _ _ | offerReady subject _ | requestDeclined subject _ => subject

/-- The fields that only one kind of event has. -/
def ownFields : Event → List (String × Json)
  | requestConfirmed _ line contract =>
    [("interest_id", toJson line), ("contract_id", toJson contract)]
  | offerReady _ offer => [("offer_id", toJson offer)]
  | requestDeclined _ reason => [("reason", toJson reason)]

/-- An event as JSON, tagged with its name. -/
def toObject (e : Event) : Json := .obj <|
  [("event", .str e.name), ("request_id", toJson e.subject.request),
    ("investor_id", toJson e.subject.investor), ("account_no", toJson e.subject.account),
    ("symbol_id", toJson e.subject.symbol)] ++ e.ownFields

end Event

/-- Why an event was not delivered. -/
inductive DeliveryError where
  | unavailable (text : String)
  | rejected (text : String)
  deriving DecidableEq

/-- A delivery error in words. -/
def DeliveryError.message : DeliveryError → String
  | unavailable text => "Notification transport unavailable: " ++ text
  | rejected text => "Notification rejected: " ++ text

end LoanDesk
