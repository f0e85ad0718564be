/-
# Job reports

`jobs`: `JobReport`, `JobOutcome`, `SchedulerRunReport` as `RunReport`, `record_job` as
`writeRecord`.

What one run of a batch job came to. A run that had nothing to do is skipped and leaves no record.
-/

import LoanDesk.Program

namespace LoanDesk

/-- How a run ended. -/
inductive JobOutcome where
  | skipped
  | succeeded
  | failed
  deriving DecidableEq

/-- The word of an outcome. -/
def JobOutcome.word : JobOutcome → String
  | skipped => "skipped"
  | succeeded => "succeeded"
  | failed => "failed"

/-- What a run came to: the offers or requests it dealt with, the lines it cancelled, the error that
ended it and the record it left. -/
structure JobReport where
  kind : JobKind
  outcome : JobOutcome
  affected : List Int
  cancelled : Nat
  error : Option String
  record : Option Int
  startedAt : Instant
  deriving DecidableEq

namespace JobReport

/-- The report of a run that did nothing. -/
def idle (kind : JobKind) (now : Instant) : JobReport := ⟨kind, .skipped, [], 0, none, none, now⟩

/-- The JSON object of a report. -/
def toObject (r : JobReport) : Json := .obj
  [("job_type", toJson r.kind), ("outcome", .str r.outcome.word),
    ("affected_ids", toJson r.affected), ("cancelled_interests", toJson r.cancelled),
    ("error", toJson r.error), ("job_id", toJson r.record), ("started_at", toJson r.startedAt)]

end JobReport

/-- The reports of both jobs run one after the other. -/
structure RunReport where
  expiration : JobReport
  decline : JobReport
  completedAt : Instant
  deriving DecidableEq

namespace RunReport

/-- The JSON object of both reports. -/
def toObject (r : RunReport) : Json := .obj
  [("expiration", r.expiration.toObject), ("risk_decline", r.decline.toObject),
    ("completed_at", toJson r.completedAt)]

/-- The errors that ended a run, each after the kind of its job. -/
def errors (r : RunReport) : List String :=
  [r.expiration, r.decline].filterMap fun j =>
    j.error.map fun e => Vocabulary.word j.kind ++ ": " ++ e

end RunReport

namespace Jobs

/-- The steps of a job that may fail on the store. -/
abbrev Work := ExceptT StoreError Program

/-- A call inside a transaction. -/
def ask (tx : TxId) (c : Call) : Work c.Answer := Program.ask id tx c

/-- The error of a job in words. -/
def errorText (e : StoreError) : String := "Store error: " ++ e.message

/-- A record is written in a transaction of its own; its number, none where that failed. -/
def writeRecord (e : JobEntry) (now : Instant) : Program (Option Int) := do
  let work : Work JobRecord :=
    Program.bracket id (fun _ => true) fun tx => ask tx (.createJob e now)
  match ← work.run with
  | .ok record => return some record.id
  | .error _ => return none

end Jobs
end LoanDesk
