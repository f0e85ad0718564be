/-
# Refusals

`domain/error` (`DomainError` as `Refusal`), and `ensure_transition` of `domain/transition` as
`LineStatus.ensureMove`.

The rules of the desk that a command may break, each as a cause of its own, and their wording in
`message`. A refusal is the caller's own fault, or the thing asked for is over already, or neither.

| refusal | own fault | over |
| --- | --- | --- |
| invalid input, unknown word, forbidden | yes | no |
| move of a line | no | where the line is final |
| request dealt with, offer expired | no | yes |
-/

import LoanDesk.Status
import LoanDesk.Text.Quoted

namespace LoanDesk

/-- What is wrong with an input. -/
inductive Flaw where
  | accountMissing
  | loanRate (rate : Decimal)
  | limit
  | initialRate (low high rate : Decimal)
  | contractSize
  | lineLimit (loan : Int)
  | lineLoanRate (loan : Int) (rate : Decimal)
  | lineInterestRate (loan : Int) (rate : Decimal)
  | lineTerm (loan : Int)
  | noLines
  | flowUnspecified
  | expiryPassed
  | noLoans
  | contractExists (contract line : Int)
  | guaranteeTooEarly
  | ceiling (rate : Decimal)
  | stated (text : String)
  deriving DecidableEq

namespace Flaw

/-- A flaw in words. -/
def message : Flaw → String
  | accountMissing => "account number is required"
  | loanRate rate => "loan rate must be within (0, 1), got " ++ rate.text
  | limit => "limit amount must be positive"
  | initialRate low high rate =>
    "initial rate must be within [" ++ low.text ++ ", " ++ high.text ++ "], got " ++ rate.text
  | contractSize => "contract size must be positive"
  | lineLimit loan => "loan " ++ Text.ofInt loan ++ ": limit amount must be positive"
  | lineLoanRate loan rate =>
    "loan " ++ Text.ofInt loan ++ ": loan rate must be within [0, 1], got " ++ rate.text
  | lineInterestRate loan rate =>
    "loan " ++ Text.ofInt loan ++ ": interest rate must be within [0, 1], got " ++ rate.text
  | lineTerm loan => "loan " ++ Text.ofInt loan ++ ": term must be positive"
  | noLines => "an offer needs at least one interest line"
  | flowUnspecified => "offer flow must be ONLINE or OFFLINE"
  | expiryPassed => "offer expiry must be in the future"
  | noLoans => "at least one loan id is required"
  | contractExists contract line =>
    "contract " ++ Text.ofInt contract ++ " already exists for interest " ++ Text.ofInt line
  | guaranteeTooEarly => "guarantee end must not precede contract creation"
  | ceiling rate => "maximum loan rate must be within (0, 1), got " ++ rate.text
  | stated text => text

end Flaw

/-- Why a caller is kept out. -/
inductive Ban where
  | otherInvestor (caller owner : Int)
  | adminConfirms (flow : Flow) (offer : Int)
  | adminOnly (investor : Int)
  | stated (text : String)
  deriving DecidableEq

namespace Ban

/-- A ban in words. -/
def message : Ban → String
  | otherInvestor caller owner =>
    "investor " ++ Text.ofInt caller ++ " cannot act for investor " ++ Text.ofInt owner
  | adminConfirms flow offer =>
    Vocabulary.word flow ++ " offer " ++ Text.ofInt offer ++ " is confirmed by an admin"
  | adminOnly investor =>
    "investor " ++ Text.ofInt investor ++ " cannot perform admin operations"
  | stated text => text

end Ban

/-- A rule of the desk that was broken. -/
inductive Refusal where
  | invalid (flaw : Flaw)
  | badMove (source target : LineStatus) (flow : Flow)
  | finalized (request : Int) (status : RequestStatus)
  | expired (offer : Int)
  | unknownWord (kind value : String)
  | forbidden (ban : Ban)
  deriving DecidableEq

namespace Refusal

/-- A refusal in words. -/
def message : Refusal → String
  | invalid flaw => "Validation failed: " ++ flaw.message
  | badMove source target flow =>
    "Invalid transition for " ++ Vocabulary.word flow ++ " offer: " ++ Vocabulary.word source ++
      " -> " ++ Vocabulary.word target
  | finalized request status =>
    "Request " ++ Text.ofInt request ++ " is already " ++ Vocabulary.word status
  | expired offer => "Offer " ++ Text.ofInt offer ++ " has expired"
  | unknownWord kind value => "Unknown " ++ kind ++ ": " ++ Text.quoted value
  | forbidden ban => "Forbidden: " ++ ban.message

/-- The input or the caller is to blame. -/
def isClientError : Refusal → Bool
  | invalid _ | unknownWord _ _ | forbidden _ => true
  | badMove _ _ _ | finalized _ _ | expired _ => false

/-- What was asked for is over. -/
def isOver : Refusal → Bool
  | badMove source _ _ => source.isFinal
  | finalized _ _ | expired _ => true
  | invalid _ | unknownWord _ _ | forbidden _ => false

end Refusal

/-- The value that a text names, or a refusal that names the text. -/
def Vocabulary.parse {α : Type} [Vocabulary α] (s : String) : Except Refusal α :=
  match find? s with
  | some a => .ok a
  | none => .error (.unknownWord (kind α) s)

/-- A line may go from one status to another. -/
def LineStatus.ensureMove (flow : Flow) (source target : LineStatus) : Except Refusal Unit :=
  if canMove flow source target then .ok () else .error (.badMove source target flow)

end LoanDesk
