/-
# Statuses, kinds and reasons

`domain/status` (`InterestStatus` as `LineStatus`, `CancelledReason` as `CancelReason`, `FlowType`
as `Flow`, and the others) and `domain/transition` (`allowed_next` as `LineStatus.next`).

The vocabularies of the desk. A line of an offer is *accepted* once it is signed, in creation or
created, and *final* where no move leads on.

| line status | accepted | final |
| --- | --- | --- |
| `PENDING` | no | no |
| `CANCELLED` | no | yes |
| `SIGNED` | yes | yes |
| `CREATING_LOAN_PACKAGE` | yes | no |
| `PACKAGE_CREATED` | yes | yes |
-/

import LoanDesk.Vocabulary

namespace LoanDesk

/-- A request is open, or it has been dealt with one way or another. -/
inductive RequestStatus where
  | pending
  | confirmed
  deriving DecidableEq, Repr

instance : Vocabulary RequestStatus where
  kind := "request status"
  all := [.pending, .confirmed]
  word
    | .pending => "PENDING"
    | .confirmed => "CONFIRMED"
  mem_all a := by cases a <;> decide
  word_injective a b := by cases a <;> cases b <;> decide

/-- What an investor asks for. -/
inductive RequestKind where
  | flexible
  | guaranteed
  deriving DecidableEq, Repr

instance : Vocabulary RequestKind where
  kind := "request type"
  all := [.flexible, .guaranteed]
  word
    | .flexible => "FLEXIBLE"
    | .guaranteed => "GUARANTEED"
  mem_all a := by cases a <;> decide
  word_injective a b := by cases a <;> cases b <;> decide

/-- What stands behind a request. -/
inductive AssetKind where
  | underlying
  | derivative
  deriving DecidableEq, Repr

instance : Vocabulary AssetKind where
  kind := "asset type"
  all := [.underlying, .derivative]
  word
    | .underlying => "UNDERLYING"
    | .derivative => "DERIVATIVE"
  mem_all a := by cases a <;> decide
  word_injective a b := by cases a <;> cases b <;> decide

/-- Who confirms an offer: the investor, or an administrator; nobody where it is not specified. -/
inductive Flow where
  | online
  | offline
  | unspecified
  deriving DecidableEq, Repr

instance : Vocabulary Flow where
  kind := "flow type"
  all := [.online, .offline, .unspecified]
  word
    | .online => "ONLINE"
    | .offline => "OFFLINE"
    | .unspecified => "UNSPECIFIED"
  mem_all a := by cases a <;> decide
  word_injective a b := by cases a <;> cases b <;> decide

/-- Where a line of an offer stands. -/
inductive LineStatus where
  | pending
  | cancelled
  | signed
  | creatingPackage
  | packageCreated
  deriving DecidableEq, Repr

instance : Vocabulary LineStatus where
  kind := "offer interest status"
  all := [.pending, .cancelled, .signed, .creatingPackage, .packageCreated]
  word
    | .pending => "PENDING"
    | .cancelled => "CANCELLED"
    | .signed => "SIGNED"
    | .creatingPackage => "CREATING_LOAN_PACKAGE"
    | .packageCreated => "PACKAGE_CREATED"
  mem_all a := by cases a <;> decide
  word_injective a b := by cases a <;> cases b <;> decide

namespace LineStatus

/-- The line has been taken. -/
def isAccepted : LineStatus → Bool
  | .signed | .creatingPackage | .packageCreated => true
  | .pending | .cancelled => false

/-- The line stays as it is. -/
def isFinal : LineStatus → Bool
  | .cancelled | .signed | .packageCreated => true
  | .pending | .creatingPackage => false

/-- The statuses that one move leads to. An offer of unspecified flow is frozen. -/
def next (flow : Flow) : LineStatus → List LineStatus
  | .pending => if flow = .unspecified then [] else [.cancelled, .packageCreated, .creatingPackage]
  | .creatingPackage => if flow = .unspecified then [] else [.packageCreated]
  | .cancelled | .signed | .packageCreated => []

/-- A move is allowed. -/
def canMove (flow : Flow) (source target : LineStatus) : Bool :=
  (next flow source).contains target

end LineStatus

/-- Why a line was cancelled; unknown where it was not. -/
inductive CancelReason where
  | unknown
  | expired
  | investor
  | admin
  | alternativeOption
  | highLoanRate
  deriving DecidableEq, Repr

instance : Vocabulary CancelReason where
  kind := "cancelled reason"
  all := [.unknown, .expired, .investor, .admin, .alternativeOption, .highLoanRate]
  word
    | .unknown => "UNKNOWN"
    | .expired => "EXPIRED"
    | .investor => "INVESTOR"
    | .admin => "ADMIN"
    | .alternativeOption => "ALTERNATIVE_OPTION"
    | .highLoanRate => "HIGH_LOAN_RATE"
  mem_all a := by cases a <;> decide
  word_injective a b := by cases a <;> cases b <;> decide

instance : Inhabited CancelReason := ⟨.unknown⟩

/-- The two batch jobs. -/
inductive JobKind where
  | declineHighRates
  | expireOffers
  deriving DecidableEq, Repr

instance : Vocabulary JobKind where
  kind := "scheduler job type"
  all := [.declineHighRates, .expireOffers]
  word
    | .declineHighRates => "DECLINE_HIGH_LOAN_REQUESTS"
    | .expireOffers => "EXPIRE_OFFERS"
  mem_all a := by cases a <;> decide
  word_injective a b := by cases a <;> cases b <;> decide

/-- How a job ended. -/
inductive JobStatus where
  | success
  | fail
  deriving DecidableEq, Repr

instance : Vocabulary JobStatus where
  kind := "scheduler job status"
  all := [.success, .fail]
  word
    | .success => "SUCCESS"
    | .fail => "FAIL"
  mem_all a := by cases a <;> decide
  word_injective a b := by cases a <;> cases b <;> decide

end LoanDesk
