/-
# Offers at the desk

`workflow/offer`: `propose_offer` as `propose`, `list_offers_for_investor` as `offersFor`.

An offer is proposed for an open request, online or offline and with at least one line; a time for
accepting it lies ahead. The terms that were submitted are kept on a sheet. The investor is told
once the offer is stored.
-/

import LoanDesk.Desk.Basic

namespace LoanDesk
namespace Desk

/-- The first rule that a proposal breaks. -/
def proposalFlaw? (c : Proposal) (now : Instant) : Option Flaw :=
  if c.lines.isEmpty then some .noLines
  else match c.lines.findSome? LineDraft.flaw? with
    | some flaw => some flaw
    | none =>
      if c.flow = .unspecified then some .flowUnspecified
      else if c.expiredAt.any (· ≤ now) then some .expiryPassed
      else none

/-- A sheet, an offer and its lines are stored. -/
def propose (c : Proposal) (caller : Caller) (now : Instant) : Action ProposalOutcome := do
  ensureSound (proposalFlaw? c now)
  let (r, sheet, offer, lines) ← change fun tx => do
    let r ← ask tx (.lockRequest c.request .noWait)
    ensure r.ensurePending
    let sheet ← ask tx (.createSheet r.id caller.name c.terms now)
    let offer ← ask tx (.createOffer ⟨r.id, caller.name, c.flow, c.expiredAt⟩ now)
    let lines ← ask tx (.createLines offer.id offer.request c.lines now)
    return (r, sheet, offer, lines)
  let undelivered ← deliver (.offerReady (.of r) offer.id)
  return ⟨sheet, offer, lines, undelivered⟩

/-- The offers made to an investor, the newest first. -/
def offersFor (investor : Int) (caller : Caller) : Action (List OfferDetails) := do
  ensure (caller.actor.ensureScope investor)
  look fun tx => ask tx (.offersOfInvestor investor)

end Desk
end LoanDesk
