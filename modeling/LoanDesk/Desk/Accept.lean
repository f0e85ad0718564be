/-
# Accepting lines

`workflow/accept`: `admin_confirm_with_loan_id` as `confirm`, `investor_accept` as `accept`,
`mark_package_created` as `createPackage`, `update_guarantee_end` as `setGuaranteeEnd`,
`lock_for_accept` as `hold`, `cascade_alternatives` as `cancelAlternatives`; SPEC_FULL.md, 4.3.

A line is accepted by an administrator who names its loan, or by the investor it was offered to.
Either way the request is locked and then all lines of the offer; the line moves on, every other
open line of the request is cancelled as an alternative, and the request is confirmed, all in one
transaction.

| path | line becomes | contract |
| --- | --- | --- |
| administrator | `PACKAGE_CREATED` | written at once |
| investor | `CREATING_LOAN_PACKAGE` | written when the package is created |
-/

import LoanDesk.Desk.Basic

namespace LoanDesk
namespace Desk

/-- A request, an offer and a line of it, all locked. -/
structure Held where
  request : Request
  offer : Offer
  line : Line

/-- The line under a number. -/
def findLine (lines : List Line) (id : Int) : Action Line :=
  match lines.find? (·.id == id) with
  | some l => pure l
  | none => throw (.notFound "offer interest" id)

/-- A request and the lines of an offer are locked; the line may move to the status. -/
def hold (tx : TxId) (offer line : Int) (target : LineStatus) : Action Held := do
  let (o, r) ← ask tx (.offerWithRequest offer)
  let r ← ask tx (.lockRequest r.id .noWait)
  let l ← findLine (← ask tx (.lockLinesOfOffer o.id)) line
  ensure (l.status.ensureMove o.flow target)
  ensure r.ensurePending
  return ⟨r, o, l⟩

/-- The open lines of the offer are cancelled, then those of the request's other offers; how many of
each there were. -/
def cancelAlternatives (tx : TxId) (h : Held) (by_ : String) (now : Instant) :
    Action (Nat × Nat) := do
  let siblings ← ask tx (.cancelByOffer h.offer.id by_ .alternativeOption now)
  let others ← ask tx (.cancelByRequests [h.request.id] by_ .alternativeOption now)
  return (siblings, others)

/-- A line is a better choice than another: pending before not, then the greater number. -/
def isBetter (a b : Line) : Bool :=
  if a.isPending = b.isPending then b.id < a.id else a.isPending

/-- The best choice among lines. -/
def best? (lines : List Line) : Option Line :=
  lines.foldl (fun best l => match best with
    | none => some l
    | some b => if isBetter l b then some l else some b) none

/-- An administrator confirms a request with a loan that was offered for it. -/
def confirm (c : Confirmation) (caller : Caller) (now : Instant) : Action AcceptOutcome := do
  let (h, siblings, others, contract) ← change fun tx => do
    let lines ← ask tx (.linesOfRequests [c.request])
    match best? (lines.filter (·.loan == c.loan)) with
    | none => throw (.notFound "loan" c.loan)
    | some target =>
      let h ← hold tx target.offer target.id .packageCreated
      let _ ← ask tx (.setLineStatuses [h.line.id] .packageCreated now)
      let (siblings, others) ← cancelAlternatives tx h caller.name now
      ask tx (.setRequestStatus h.request.id .confirmed now)
      let contract ← ask tx (.createContract (.forLine h.request h.line) now)
      ask tx (.attachContract h.line.id contract.id now)
      return (h, siblings, others, contract)
  let undelivered ← deliver (.requestConfirmed (.of h.request) h.line.id (some contract.id))
  return {
    request := h.request.id
    offer := h.offer.id
    line := (h.line.withStatus .packageCreated now).withContract contract.id now
    contract := some contract
    cancelledSiblings := siblings
    cancelledOthers := others
    undelivered }

/-- The investor takes a line of an online offer, in time. -/
def accept (c : Acceptance) (caller : Caller) (now : Instant) : Action AcceptOutcome := do
  let (h, siblings, others) ← change fun tx => do
    let (o, r) ← ask tx (.offerWithRequest c.offer)
    ensure (caller.actor.ensureScope r.investor)
    if o.flow ≠ .online then throw (.refused (.forbidden (.adminConfirms o.flow o.id)))
    if o.isExpired now then throw (.refused (.expired o.id))
    let h ← hold tx o.id c.line .creatingPackage
    let _ ← ask tx (.setLineStatuses [h.line.id] .creatingPackage now)
    let (siblings, others) ← cancelAlternatives tx h caller.name now
    ask tx (.setRequestStatus h.request.id .confirmed now)
    return (h, siblings, others)
  let undelivered ← deliver (.requestConfirmed (.of h.request) h.line.id none)
  return {
    request := h.request.id
    offer := h.offer.id
    line := h.line.withStatus .creatingPackage now
    contract := none
    cancelledSiblings := siblings
    cancelledOthers := others
    undelivered }

/-- The package of an accepted line is created, and its contract written. -/
def createPackage (line : Int) (now : Instant) : Action PackageOutcome :=
  change fun tx => do
    let l ← ask tx (.getLine line)
    let (o, r) ← ask tx (.offerWithRequest l.offer)
    let l ← findLine (← ask tx (.lockLinesOfOffer o.id)) line
    ensure (l.status.ensureMove o.flow .packageCreated)
    match ← ask tx (.contractOfLine l.id) with
    | some k => throw (.refused (.invalid (.contractExists k.id l.id)))
    | none =>
      let _ ← ask tx (.setLineStatuses [l.id] .packageCreated now)
      let k ← ask tx (.createContract (.forLine r l) now)
      ask tx (.attachContract l.id k.id now)
      return ⟨(l.withStatus .packageCreated now).withContract k.id now, k⟩

/-- The end of a contract's guarantee is set, not before the contract was written. -/
def setGuaranteeEnd (contract : Int) (at_ : Instant) : Action Contract :=
  change fun tx => do
    let k ← ask tx (.getContract contract)
    if at_ < k.createdAt then throw (.refused (.invalid .guaranteeTooEarly))
    ask tx (.setGuaranteeEnd contract at_)

end Desk
end LoanDesk
