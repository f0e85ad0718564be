/-
# The server

`api/routes`: its handlers, as `answer`.

A request is answered in steps, and the first that fails gives the answer:

| step | on failure |
| --- | --- |
| identity headers | the failure |
| path and method | 404, 405 |
| number in the path, query | 400 |
| body: media type, size, then its text | 415, 413, 400 if malformed or 422 if it does not fit |
| role of the caller, then the desk | the failure |

A failure is told in a JSON body; the replies of the middle three steps have none. Neither has any
reply to `HEAD` at a path that can be got.
-/

import LoanDesk.Desk.Accept
import LoanDesk.Desk.Cancel
import LoanDesk.Desk.Ceilings
import LoanDesk.Desk.Offers
import LoanDesk.Desk.Requests
import LoanDesk.Http.Body
import LoanDesk.Http.MediaType
import LoanDesk.Http.Query
import LoanDesk.Http.Route
import LoanDesk.Jobs.Timer

namespace LoanDesk
namespace Http

/-- What a caller sends. -/
structure Message where
  method : String
  target : String
  headers : Headers
  body : String

/-- What a caller gets: a status, and a JSON body or none. -/
structure Reply where
  status : Nat
  body : Option Json

/-- The reply that tells a failure. -/
def Reply.ofFailure (f : Failure) : Reply := ⟨f.status, some f.reply⟩

/-- Why there is no ordinary reply: a failure that is told, or a bare status. -/
inductive Rejection where
  | told (f : Failure)
  | bare (status : Nat)

/-- The reply to a rejected message. -/
def Rejection.reply : Rejection → Reply
  | told f => .ofFailure f
  | bare status => ⟨status, none⟩

/-- The steps of an answer. -/
abbrev Answer := ExceptT Rejection Program

/-- An action of the desk, whose failure is told. -/
def run {α : Type} (t : Desk.Action α) : Answer α := do
  match ← ExceptT.lift t.run with
  | .ok a => return a
  | .error f => throw (.told f)

/-- A rule is checked, whose refusal is told. -/
def ensure {α : Type} : Except Refusal α → Answer α
  | .ok a => pure a
  | .error r => throw (.told (.refused r))

/-- Something that was found, or a bare status. -/
def orStatus {α : Type} (status : Nat) : Option α → Answer α
  | some a => pure a
  | none => throw (.bare status)

/-- The number in a piece of a path. -/
def number (piece : List Char) : Answer Int := orStatus 400 (pathNumber? piece)

/-- The bytes that a body may have. -/
def maxBodyBytes : Nat := 2 * 1024 * 1024

/-- The value in the body of a message. Text behind it is passed over. -/
def body {α : Type} (m : Message) (b : Body α) : Answer α := do
  if !saysJson m.headers then throw (.bare 415)
  if maxBodyBytes < m.body.utf8ByteSize then throw (.bare 413)
  match b.shape.scan m.body with
  | .ok j => orStatus 422 (b.read j)
  | .error .malformed => throw (.bare 400)
  | .error .misfit => throw (.bare 422)

/-- An overview, which investors get of their own requests only. A request of somebody else is not
there for them. -/
def showRequest (id : Int) (caller : Caller) : Desk.Action RequestOverview := do
  let o ← Desk.overview id
  match caller.actor.investorId? with
  | some investor =>
    if investor = o.request.investor then return o
    else throw (.notFound "loan package request" id)
  | none => return o

/-- The filter of a caller: investors see their own requests only. -/
def scopeFilter (caller : Caller) (f : RequestFilter) : RequestFilter :=
  match caller.actor.investorId? with
  | some id => { f with investor := some id }
  | none => f

/-- What is done at an endpoint, and the reply. -/
def answer (m : Message) (query : List Char) (caller : Caller) (settings : Jobs.Settings)
    (rounds : Nat) (now : Instant) : Endpoint → Answer Reply
  | .openRequest => do
    let c ← body m .openRequest
    let r ← run (Desk.openRequest c caller now)
    return ⟨201, some (toJson r)⟩
  | .listRequests => do
    let q ← orStatus 400 (ListQuery.ofQuery? query)
    let (f, page) ← ensure q.filter
    let o ← run (Desk.listOverviews (scopeFilter caller f) page)
    return ⟨200, some o.toObject⟩
  | .showRequest id => do
    let o ← run (showRequest (← number id) caller)
    return ⟨200, some (toJson o)⟩
  | .deleteRequest id => do
    let id ← number id
    ensure caller.actor.ensureAdmin
    run (Desk.deleteRequest id)
    return ⟨204, none⟩
  | .propose request => do
    let request ← number request
    let c ← body m (.proposal request)
    ensure caller.actor.ensureAdmin
    let o ← run (Desk.propose c caller now)
    return ⟨201, some o.toObject⟩
  | .confirm request => do
    let request ← number request
    let c ← body m (.confirmation request)
    ensure caller.actor.ensureAdmin
    let o ← run (Desk.confirm c caller now)
    return ⟨200, some o.toObject⟩
  | .cancel request => do
    let request ← number request
    let c ← body m (.cancellation request)
    ensure caller.actor.ensureAdmin
    let o ← run (Desk.cancel c caller now)
    return ⟨200, some o.toObject⟩
  | .accept offer => do
    let offer ← number offer
    let c ← body m (.acceptance offer)
    let o ← run (Desk.accept c caller now)
    return ⟨200, some o.toObject⟩
  | .decline offer => do
    let o ← run (Desk.decline (← number offer) caller now)
    return ⟨200, some o.toObject⟩
  | .offersFor investor => do
    let os ← run (Desk.offersFor (← number investor) caller)
    return ⟨200, some (toJson os)⟩
  | .createPackage line => do
    let line ← number line
    ensure caller.actor.ensureAdmin
    let o ← run (Desk.createPackage line now)
    return ⟨201, some o.toObject⟩
  | .setGuaranteeEnd contract => do
    let contract ← number contract
    let at_ ← body m .guaranteeEnd
    ensure caller.actor.ensureAdmin
    let k ← run (Desk.setGuaranteeEnd contract at_)
    return ⟨200, some (toJson k)⟩
  | .withdraw symbol => do
    let symbol ← number symbol
    ensure caller.actor.ensureAdmin
    let o ← run (Desk.withdraw symbol caller now)
    return ⟨200, some o.toObject⟩
  | .addCeiling => do
    let (rate, affectedFrom) ← body m .ceiling
    ensure caller.actor.ensureAdmin
    let c ← run (Desk.addCeiling rate (affectedFrom.getD now) now)
    return ⟨201, some (toJson c)⟩
  | .currentCeiling => do
    ensure caller.actor.ensureAdmin
    let c ← run (Desk.currentCeiling now)
    return ⟨200, some (.obj [("config", toJson c)])⟩
  | .listJobs => do
    let q ← orStatus 400 (JobsQuery.ofQuery? query)
    ensure caller.actor.ensureAdmin
    let kind ← ensure (ListQuery.lookUp q.kind)
    let js ← run (Desk.listJobs kind q.limit)
    return ⟨200, some (toJson js)⟩
  | .runJobs => do
    ensure caller.actor.ensureAdmin
    let report ← ExceptT.lift (Jobs.runAll settings rounds now)
    return ⟨200, some report.toObject⟩

/-- The answer to a message. -/
def serve (m : Message) (settings : Jobs.Settings) (rounds : Nat) (now : Instant) :
    Program Reply := do
  let (path, query) := splitTarget m.target
  let found := findEndpoint m.method path
  let steps : Answer Reply := do
    let caller ← match identify m.headers with
      | .ok caller => pure caller
      | .error f => throw (.told f)
    let endpoint ← match found with
      | .ok endpoint => pure endpoint
      | .error status => throw (.bare status)
    answer m query caller settings rounds now endpoint
  let reply ← do
    match ← steps.run with
    | .ok reply => pure reply
    | .error rejection => pure rejection.reply
  return if m.method = "HEAD" && found.isOk then { reply with body := none } else reply

end Http
end LoanDesk
