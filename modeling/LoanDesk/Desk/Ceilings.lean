/-
# Ceilings at the desk

`workflow/risk`: `create_scheduler_config` as `addCeiling`, `current_scheduler_config` as
`currentCeiling`, `list_scheduler_jobs` as `listJobs`.

A ceiling lies between zero and one. Ceilings are only ever added; the one in force is that which
took effect last. The records of the jobs may be looked at.
-/

import LoanDesk.Desk.Basic

namespace LoanDesk
namespace Desk

/-- A new ceiling is stored. -/
def addCeiling (rate : Decimal) (affectedFrom now : Instant) : Action Ceiling := do
  ensureSound (Ceiling.flaw? rate)
  change fun tx => ask tx (.createCeiling rate affectedFrom now)

/-- The ceiling in force. -/
def currentCeiling (now : Instant) : Action (Option Ceiling) :=
  look fun tx => ask tx (.currentCeiling now)

/-- The records of the jobs, the newest first. -/
def listJobs (kind : Option JobKind) (limit : Int) : Action (List JobRecord) :=
  look fun tx => ask tx (.listJobs kind (Page.clampLimit limit))

end Desk
end LoanDesk
