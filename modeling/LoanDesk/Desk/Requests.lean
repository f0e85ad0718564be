/-
# Requests at the desk

`workflow/request`: `create_request` as `openRequest`, `delete_pending_request` as `deleteRequest`,
`combined_status` as `overview`, `list_requests_with_status` as `listOverviews`.

Requests are opened by investors for themselves, or by others for them. While a request is open and
none of its lines accepted it may be deleted, and all that belongs to it. An overview shows a
request with where it stands.
-/

import LoanDesk.Desk.Basic

namespace LoanDesk
namespace Desk

/-- A new request is stored. -/
def openRequest (c : OpenRequest) (caller : Caller) (now : Instant) : Action Request := do
  ensure (caller.actor.ensureScope c.draft.investor)
  ensureSound c.draft.flaw?
  change fun tx => ask tx (.createRequest c.draft now)

/-- An open request is deleted. -/
def deleteRequest (id : Int) : Action Unit :=
  change fun tx => do
    let r ← ask tx (.lockRequest id .noWait)
    ensure r.ensurePending
    let lines ← ask tx (.linesOfRequests [id])
    match lines.find? (·.status.isAccepted) with
    | some l => throw (.refused (.badMove l.status .cancelled .unspecified))
    | none => ask tx (.deleteRequest id)

/-- A request with where it stands. -/
def overview (id : Int) : Action RequestOverview :=
  look fun tx => do
    let r ← ask tx (.getRequest id)
    return .of r (← ask tx (.linesOfRequests [id]))

/-- A page of the requests that a filter selects, the newest first, and how many it selects. Page
and number are read in transactions of their own. -/
def listOverviews (f : RequestFilter) (page : Page) : Action OverviewPage :=
  look fun pageTx => look fun countTx => do
    let rs ← ask pageTx (.listRequests f page)
    let total ← ask countTx (.countRequests f)
    let lines ← ask pageTx (.linesOfRequests (rs.map (·.id)))
    return ⟨rs.map fun r => .of r (lines.filter (·.request == r.id)), total, page⟩

end Desk
end LoanDesk
