/-
# Operations and tasks

Everything that may be asked of the desk as one type, so that a statement may be about all of it,
and with it the runs of the two jobs. An operation has the action that the desk takes
(`Operation.action`); a task is an operation for a caller at a time, or a run of a job, and has a
program.
-/

import LoanDesk.Desk.Accept
import LoanDesk.Desk.Cancel
import LoanDesk.Desk.Ceilings
import LoanDesk.Desk.Offers
import LoanDesk.Desk.Requests
import LoanDesk.Jobs.Decline
import LoanDesk.Jobs.Expire

namespace LoanDesk

/-- What may be asked of the desk. -/
inductive Operation where
  | openRequest (c : OpenRequest)
  | deleteRequest (id : Int)
  | overview (id : Int)
  | listOverviews (f : RequestFilter) (page : Page)
  | propose (c : Proposal)
  | offersFor (investor : Int)
  | confirm (c : Confirmation)
  | accept (c : Acceptance)
  | createPackage (line : Int)
  | setGuaranteeEnd (contract : Int) (at_ : Instant)
  | cancel (c : Cancellation)
  | decline (offer : Int)
  | withdraw (symbol : Int)
  | addCeiling (rate : Decimal) (affectedFrom : Instant)
  | currentCeiling
  | listJobs (kind : Option JobKind) (limit : Int)

namespace Operation

/-- What an operation gives. -/
abbrev Answer : Operation → Type
  | openRequest _ => Request
  | deleteRequest _ => Unit
  | overview _ => RequestOverview
  | listOverviews _ _ => OverviewPage
  | propose _ => ProposalOutcome
  | offersFor _ => List OfferDetails
  | confirm _ | accept _ => AcceptOutcome
  | createPackage _ => PackageOutcome
  | setGuaranteeEnd _ _ => Contract
  | cancel _ => CancelOutcome
  | decline _ => DeclineOutcome
  | withdraw _ => WithdrawOutcome
  | addCeiling _ _ => Ceiling
  | currentCeiling => Option Ceiling
  | listJobs _ _ => List JobRecord

/-- The action that the desk takes. -/
def action (caller : Caller) (now : Instant) : (o : Operation) → Desk.Action o.Answer
  | openRequest c => Desk.openRequest c caller now
  | deleteRequest id => Desk.deleteRequest id
  | overview id => Desk.overview id
  | listOverviews f page => Desk.listOverviews f page
  | propose c => Desk.propose c caller now
  | offersFor investor => Desk.offersFor investor caller
  | confirm c => Desk.confirm c caller now
  | accept c => Desk.accept c caller now
  | createPackage line => Desk.createPackage line now
  | setGuaranteeEnd contract at_ => Desk.setGuaranteeEnd contract at_
  | cancel c => Desk.cancel c caller now
  | decline offer => Desk.decline offer caller now
  | withdraw symbol => Desk.withdraw symbol caller now
  | addCeiling rate affectedFrom => Desk.addCeiling rate affectedFrom now
  | currentCeiling => Desk.currentCeiling now
  | listJobs kind limit => Desk.listJobs kind limit

end Operation

/-- A piece of work: an operation for a caller, or a run of a job, each at a time. -/
inductive Task where
  | operate (o : Operation) (caller : Caller) (now : Instant)
  | expire (actor : String) (now : Instant)
  | decline (actor : String) (batch : Int) (rounds : Nat) (now : Instant)

/-- The task is a run of a job. -/
def Task.IsJob : Task → Prop
  | operate _ _ _ => False
  | expire _ _ | decline _ _ _ _ => True

/-- The steps of a task, whose result nobody waits for. -/
def Task.program : Task → Program Unit
  | operate o caller now => (o.action caller now).run.bind fun _ => .done ()
  | expire actor now => (Jobs.expire actor now).bind fun _ => .done ()
  | decline actor batch rounds now => (Jobs.decline actor batch rounds now).bind fun _ => .done ()

end LoanDesk
