/-
# Ceilings and job records

`domain/entities`: `LoanRequestSchedulerConfig` as `Ceiling`, `NewSchedulerJob` as `JobEntry`,
`SchedulerJob` as `JobRecord`.

A ceiling is the loan rate from which open requests are declined, effective from a given time on. A
job record is the trace of one run of a batch job: what it did, as a JSON value.
-/

import LoanDesk.Refusal

namespace LoanDesk

/-- A stored ceiling. -/
structure Ceiling where
  id : Int
  maximumRate : Decimal
  affectedFrom : Instant
  createdAt : Instant
  deriving DecidableEq

/-- A job record before it is stored. -/
structure JobEntry where
  kind : JobKind
  status : JobStatus
  triggeredBy : String
  tracking : Json

/-- A stored job record. -/
structure JobRecord where
  id : Int
  kind : JobKind
  status : JobStatus
  triggeredBy : String
  tracking : Json
  createdAt : Instant

/-- The stored record of an entry. -/
def JobEntry.toRecord (e : JobEntry) (id : Int) (now : Instant) : JobRecord :=
  { id, kind := e.kind, status := e.status, triggeredBy := e.triggeredBy, tracking := e.tracking,
    createdAt := now }

/-- A rate that a ceiling may not have. -/
def Ceiling.flaw? (rate : Decimal) : Option Flaw :=
  if rate ≤ Decimal.zero || Decimal.one ≤ rate then some (.ceiling rate) else none

instance : Coded Ceiling where
  toJson c := .obj
    [("id", toJson c.id), ("maximum_loan_rate", toJson c.maximumRate),
      ("affected_from", toJson c.affectedFrom), ("created_at", toJson c.createdAt)]
  ofJson? j := do
    let r ← j.record? ["id", "maximum_loan_rate", "affected_from", "created_at"]
    return {
      id := ← r.required "id"
      maximumRate := ← r.required "maximum_loan_rate"
      affectedFrom := ← r.required "affected_from"
      createdAt := ← r.required "created_at" }

instance : Coded JobRecord where
  toJson e := .obj
    [("id", toJson e.id), ("job_type", toJson e.kind), ("status", toJson e.status),
      ("triggered_by", toJson e.triggeredBy), ("tracking_data", e.tracking),
      ("created_at", toJson e.createdAt)]
  ofJson? j := do
    let r ← j.record? ["id", "job_type", "status", "triggered_by", "tracking_data", "created_at"]
    return {
      id := ← r.required "id"
      kind := ← r.required "job_type"
      status := ← r.required "status"
      triggeredBy := ← r.required "triggered_by"
      tracking := ← r.required "tracking_data"
      createdAt := ← r.required "created_at" }

end LoanDesk
