/-
# Declining requests above the ceiling

`jobs/risk_decline`: `run_at` of `RiskDeclineScheduler` as `decline`, `decline_batch` as
`declineBatch`; SPEC_FULL.md, 4.5.

One run declines the open requests whose loan rate reaches the ceiling in force, batch by batch,
each batch in a transaction of its own. Requests that somebody else holds are passed over. A batch
that fails ends the run; what earlier batches did stands. The investors are told at the end.

Batches are claimed until one is empty. `rounds` bounds them: more than there are open requests are
never needed, because every batch closes one at least.
-/

import LoanDesk.Jobs.Report

namespace LoanDesk
namespace Jobs

/-- What the batches of a run came to. -/
structure Declined where
  requests : List Request
  cancelled : Nat
  error : Option StoreError

/-- One batch: requests are claimed, their open lines cancelled, and they are closed. -/
def declineBatch (c : Ceiling) (batch : Int) (actor : String) (now : Instant) :
    Work (List Request × Nat) :=
  Program.bracket id (fun r => !r.1.isEmpty) fun tx => do
    let claimed ← ask tx (.claimAboveRate c.maximumRate batch)
    if claimed.isEmpty then return ([], 0)
    else
      let ids := claimed.map (·.id)
      let cancelled ← ask tx (.cancelByRequests ids actor .highLoanRate now)
      let _ ← ask tx (.setRequestStatuses ids .confirmed now)
      return (claimed, cancelled)

/-- Batches until one is empty or fails. -/
def declineBatches (c : Ceiling) (batch : Int) (actor : String) (now : Instant) :
    Nat → Program Declined
  | 0 => return ⟨[], 0, none⟩
  | rounds + 1 => do
    match ← (declineBatch c batch actor now).run with
    | .error e => return ⟨[], 0, some e⟩
    | .ok ([], _) => return ⟨[], 0, none⟩
    | .ok (claimed, cancelled) =>
      let rest ← declineBatches c batch actor now rounds
      return ⟨claimed ++ rest.requests, cancelled + rest.cancelled, rest.error⟩

/-- What the record of a run says. -/
def declineTracking (c : Ceiling) (r : JobReport) : Json := .obj
  [("config_id", toJson c.id), ("maximum_loan_rate", toJson c.maximumRate),
    ("declined_request_ids", toJson r.affected), ("cancelled_interests", toJson r.cancelled),
    ("error", toJson r.error)]

/-- The investors are told; it does not matter whether they hear it. -/
def announce : List Request → Program Unit
  | [] => return ()
  | r :: rs => do
    let _ ← Program.deliver (.requestDeclined (.of r) .highLoanRate)
    announce rs

/-- One run. Batches have at least one request. -/
def decline (actor : String) (batch : Int) (rounds : Nat) (now : Instant) : Program JobReport := do
  let idle := JobReport.idle .declineHighRates now
  let ceiling : Work (Option Ceiling) :=
    Program.bracket id (fun _ => false) fun tx => ask tx (.currentCeiling now)
  match ← ceiling.run with
  | .error e =>
    let error := some (errorText e)
    let record ← writeRecord
      ⟨.declineHighRates, .fail, actor, .obj [("error", toJson error)]⟩ now
    return { idle with outcome := .failed, error, record }
  | .ok none => return idle
  | .ok (some c) =>
    let declined ← declineBatches c (max batch 1) actor now rounds
    let report := { idle with
      outcome := if declined.error.isSome then .failed else .succeeded
      affected := declined.requests.map (·.id)
      cancelled := declined.cancelled
      error := declined.error.map errorText }
    let status := if declined.error.isSome then .fail else .success
    let record ← writeRecord ⟨.declineHighRates, status, actor, declineTracking c report⟩ now
    announce declined.requests
    return { report with record }

end Jobs
end LoanDesk
