/-
# Cancelling lines

`workflow/cancel`: `admin_cancel` as `cancel`, `investor_decline` as `decline`, `withdraw_symbol` as
`withdraw`, `flow_of` as `flowOf`; SPEC_FULL.md, 4.3 and 11.5.

An administrator cancels the open lines with given loans, an investor turns down an offer. Neither
closes the request: a new offer may still be made for it. Where a symbol is withdrawn its open
requests are closed and all their open lines cancelled, but for requests that somebody else holds.
-/

import LoanDesk.Desk.Basic

namespace LoanDesk
namespace Desk

/-- The flow of an offer among offers, unspecified where it is not there. -/
def flowOf (offers : List Offer) (id : Int) : Flow :=
  match offers.reverse.find? (·.id == id) with
  | some o => o.flow
  | none => .unspecified

/-- The lines may all be cancelled. -/
def ensureCancellable (offers : List Offer) : List Line → Action Unit
  | [] => pure ()
  | l :: ls => do
    ensure (l.status.ensureMove (flowOf offers l.offer) .cancelled)
    ensureCancellable offers ls

/-- The open lines with a loan. There has to be a line with it, and where none is open the first of
them has to be one that may be cancelled. -/
def openLines (offers : List Offer) (lines : List Line) (loan : Int) : Action (List Line) := do
  match lines.filter (·.loan == loan) with
  | [] => throw (.notFound "loan" loan)
  | l :: ls =>
    let pending := (l :: ls).filter (·.isPending)
    ensureCancellable offers (if pending.isEmpty then [l] else pending)
    return pending

/-- The open lines with any of the loans, loan by loan. -/
def targets (offers : List Offer) (lines : List Line) : List Int → Action (List Line)
  | [] => return []
  | loan :: loans => do
    let ls ← openLines offers lines loan
    return ls ++ (← targets offers lines loans)

/-- The lines of the offers are locked, offer by offer. -/
def lockOffers (tx : TxId) : List Int → Action Unit
  | [] => pure ()
  | o :: os => do
    let _ ← ask tx (.lockLinesOfOffer o)
    lockOffers tx os

/-- An administrator cancels the open lines with given loans. The investor is told where nothing of
the request is left open. -/
def cancel (c : Cancellation) (caller : Caller) (now : Instant) : Action CancelOutcome := do
  ensureSound (if c.loans.isEmpty then some .noLoans else none)
  let reason : CancelReason := if c.forInvestor then .investor else .admin
  let (r, ids, standing) ← change fun tx => do
    let r ← ask tx (.lockRequest c.request .noWait)
    let offers ← ask tx (.offersOfRequest r.id)
    let lines ← ask tx (.linesOfRequests [r.id])
    let targets ← targets offers lines c.loans
    lockOffers tx ((targets.map (·.offer)).mergeSort (· ≤ ·)).eraseDups
    let ids := targets.map (·.id)
    let _ ← ask tx (.cancelLines ids caller.name reason now)
    let after ← ask tx (.linesOfRequests [r.id])
    return (r, ids, Standing.of r after)
  let undelivered ←
    if standing.isCancelled then deliver (.requestDeclined (.of r) reason) else pure none
  return ⟨r.id, ids, r.status, standing, undelivered⟩

/-- An investor turns down the open lines of an offer. -/
def decline (offer : Int) (caller : Caller) (now : Instant) : Action DeclineOutcome :=
  change fun tx => do
    let (o, r) ← ask tx (.offerWithRequest offer)
    ensure (caller.actor.ensureScope r.investor)
    let _ ← ask tx (.lockRequest r.id .noWait)
    let lines ← ask tx (.lockLinesOfOffer o.id)
    match lines.find? (·.isPending) with
    | some l => ensure (l.status.ensureMove o.flow .cancelled)
    | none =>
      let source := match lines.head? with
        | some l => l.status
        | none => .cancelled
      throw (.refused (.badMove source .cancelled o.flow))
    let cancelled ← ask tx (.cancelByOffer o.id caller.name .investor now)
    let after ← ask tx (.linesOfRequests [r.id])
    return ⟨o.id, r.id, cancelled, Standing.of r after⟩

/-- The investors are told, one after another; why some were not. -/
def deliverAll : List Event → Action (List String)
  | [] => return []
  | e :: es => do
    let undelivered ← deliver e
    return undelivered.toList ++ (← deliverAll es)

/-- A symbol is withdrawn. -/
def withdraw (symbol : Int) (caller : Caller) (now : Instant) : Action WithdrawOutcome := do
  let (claimed, cancelled) ← change fun tx => do
    let claimed ← ask tx (.claimBySymbol symbol)
    let ids := claimed.map (·.id)
    let cancelled ← ask tx (.cancelByRequests ids caller.name .admin now)
    let _ ← ask tx (.setRequestStatuses ids .confirmed now)
    return (claimed, cancelled)
  let undelivered ← deliverAll (claimed.map fun r => .requestDeclined (.of r) .admin)
  return ⟨symbol, claimed.map (·.id), cancelled, undelivered⟩

end Desk
end LoanDesk
