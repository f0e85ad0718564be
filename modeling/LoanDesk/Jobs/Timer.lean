/-
# The timer of the jobs

`jobs`: `JobSchedulerConfig` as `Settings`, `run_all_once` of `JobScheduler` as `runAll`, the loop
of its `run` as `due`.

Both jobs run at once when the timer starts and then once every period. A timer with a period of
zero does not start.
-/

import LoanDesk.Jobs.Decline
import LoanDesk.Jobs.Expire

namespace LoanDesk
namespace Jobs

/-- How the jobs are run: their periods in seconds, the requests to a batch, and the actor. -/
structure Settings where
  expireSeconds : Nat
  declineSeconds : Nat
  batch : Int
  actor : String
  deriving DecidableEq

/-- Every minute and every five minutes, 200 requests to a batch. -/
def Settings.default : Settings := ⟨60, 300, 200, "system"⟩

/-- The JSON object of the settings. -/
def Settings.toObject (s : Settings) : Json := .obj
  [("expiration_secs", toJson s.expireSeconds), ("risk_decline_secs", toJson s.declineSeconds),
    ("batch_size", toJson s.batch), ("system_actor", toJson s.actor)]

/-- Both jobs, one after the other. -/
def runAll (s : Settings) (rounds : Nat) (now : Instant) : Program RunReport := do
  let expiration ← expire s.actor now
  let decline ← decline s.actor s.batch rounds now
  return ⟨expiration, decline, now⟩

/-- The times at which a job of a given period is due, up to an end. -/
def dueTimes (period until_ : Nat) : List Nat := (List.range (until_ / period + 1)).map (· * period)

/-- The jobs that are due up to an end, in milliseconds, in order. -/
def due (s : Settings) (until_ : Nat) : List JobKind :=
  if s.expireSeconds = 0 || s.declineSeconds = 0 then []
  else
    let expire := (dueTimes (s.expireSeconds * 1000) until_).map fun t => (t, JobKind.expireOffers)
    let decline :=
      (dueTimes (s.declineSeconds * 1000) until_).map fun t => (t, JobKind.declineHighRates)
    ((expire ++ decline).mergeSort fun a b => a.1 ≤ b.1).map (·.2)

/-- One run of a job. -/
def runOne (s : Settings) (rounds : Nat) (now : Instant) : JobKind → Program JobReport
  | .expireOffers => expire s.actor now
  | .declineHighRates => decline s.actor s.batch rounds now

end Jobs
end LoanDesk
