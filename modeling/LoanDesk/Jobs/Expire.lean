/-
# Expiring offers

`jobs/expiration`: `run_at` of `ExpirationScheduler` as `expire`, and its own `expire` as
`expireLines`; SPEC_FULL.md, 4.4.

One run cancels the open lines of the online offers whose time for accepting has passed, all of them
in one transaction. A run that cancels nothing leaves no record.
-/

import LoanDesk.Jobs.Report

namespace LoanDesk
namespace Jobs

/-- The lines are cancelled; the offers they belong to, and how many lines there were. -/
def expireLines (actor : String) (now : Instant) : Work (List Int × Nat) :=
  Program.bracket id (fun _ => true) fun tx => do
    let offers ← ask tx (.expiredOffers now)
    let ids := offers.map (·.id)
    return (ids, ← ask tx (.cancelExpired ids actor now))

/-- What the record of a run says. -/
def expireTracking (offers : List Int) (cancelled : Nat) (error : Option String) : Json := .obj
  [("offer_ids", toJson offers), ("cancelled_interests", toJson cancelled),
    ("error", toJson error)]

/-- One run. -/
def expire (actor : String) (now : Instant) : Program JobReport := do
  let idle := JobReport.idle .expireOffers now
  match ← (expireLines actor now).run with
  | .ok (offers, cancelled) =>
    let report := { idle with affected := offers, cancelled }
    if cancelled = 0 then return report
    else
      let record ← writeRecord
        ⟨.expireOffers, .success, actor, expireTracking offers cancelled none⟩ now
      return { report with outcome := .succeeded, record }
  | .error e =>
    let error := some (errorText e)
    let record ← writeRecord ⟨.expireOffers, .fail, actor, expireTracking [] 0 error⟩ now
    return { idle with outcome := .failed, error, record }

end Jobs
end LoanDesk
