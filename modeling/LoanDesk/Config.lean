/-
# Process configuration

`config`: `from_source` of `Config` as `Config.ofEnvironment`, `parse_or` as `number`; SPEC_FULL.md,
10.4.

Ten named values of the process environment. The database is required, all others have a default;
numbers may have blanks around them. The values are checked in this order, and the first that is
missing or invalid is reported:

| name | value | default |
| --- | --- | --- |
| `DATABASE_URL` | text | |
| `DATABASE_MAX_CONNECTIONS` | 32 bits | 10 |
| `HOST` | text | `127.0.0.1` |
| `PORT` | 16 bits | 3000 |
| `ENVIRONMENT` | text | `development` |
| `EXPIRATION_JOB_INTERVAL_SECS`, `RISK_DECLINE_JOB_INTERVAL_SECS` | 64 bits, not zero | 60, 300 |
| `RISK_DECLINE_BATCH_SIZE` | 64 bits, at least one | 200 |
| `SYSTEM_ACTOR` | text that is not blank | `system` |
| `JOBS_ENABLED` | `1`, `true`, `yes`, `on`, or `0`, `false`, `no`, `off`, in any case | yes |
-/

import LoanDesk.Failure
import LoanDesk.Jobs.Timer

namespace LoanDesk

/-- What the process is told by its environment. -/
structure Config where
  databaseUrl : String
  maxConnections : Nat
  host : String
  port : Nat
  environment : String
  expireSeconds : Nat
  declineSeconds : Nat
  batch : Int
  systemActor : String
  jobsEnabled : Bool
  deriving DecidableEq

namespace Config

/-- A whole number with blanks around it. -/
def number (get : String → Option String) (name : String) (low high default : Int) :
    Except ConfigError Int :=
  match get name with
  | none => .ok default
  | some raw =>
    match Text.readInt low high (Text.trim raw) with
    | some n => .ok n
    | none => .error (.invalid name)

/-- A whole number that is not too small. -/
def atLeastOne (name : String) (n : Int) : Except ConfigError Unit :=
  if n < 1 then .error (.invalid name) else .ok ()

/-- A yes or a no in one of its spellings. -/
def yesNo? (s : String) : Option Bool :=
  let s := String.ofList (s.toList.map Char.toLower)
  if ["1", "true", "yes", "on"].contains s then some true
  else if ["0", "false", "no", "off"].contains s then some false
  else none

/-- Jobs are run unless the environment says no. -/
def jobs (get : String → Option String) : Except ConfigError Bool :=
  match get "JOBS_ENABLED" with
  | none => .ok true
  | some raw =>
    match yesNo? raw with
    | some b => .ok b
    | none => .error (.invalid "JOBS_ENABLED")

/-- The configuration in an environment. -/
def ofEnvironment (get : String → Option String) : Except ConfigError Config := do
  let databaseUrl ← match get "DATABASE_URL" with
    | some url => pure url
    | none => throw (.missing "DATABASE_URL")
  let maxConnections ← number get "DATABASE_MAX_CONNECTIONS" 0 (UInt32.size - 1) 10
  let host := (get "HOST").getD "127.0.0.1"
  let port ← number get "PORT" 0 (UInt16.size - 1) 3000
  let environment := (get "ENVIRONMENT").getD "development"
  let expireSeconds ← number get "EXPIRATION_JOB_INTERVAL_SECS" 0 (UInt64.size - 1) 60
  let declineSeconds ← number get "RISK_DECLINE_JOB_INTERVAL_SECS" 0 (UInt64.size - 1) 300
  atLeastOne "EXPIRATION_JOB_INTERVAL_SECS" expireSeconds
  atLeastOne "RISK_DECLINE_JOB_INTERVAL_SECS" declineSeconds
  let batch ← number get "RISK_DECLINE_BATCH_SIZE" Text.int64Min Text.int64Max 200
  atLeastOne "RISK_DECLINE_BATCH_SIZE" batch
  let systemActor := ((get "SYSTEM_ACTOR").filter fun s => !Text.isBlankText s).getD "system"
  let jobsEnabled ← jobs get
  return {
    databaseUrl
    maxConnections := maxConnections.toNat
    host
    port := port.toNat
    environment
    expireSeconds := expireSeconds.toNat
    declineSeconds := declineSeconds.toNat
    batch
    systemActor
    jobsEnabled }

/-- The process serves real callers. -/
def isProduction (c : Config) : Bool := c.environment == "production"

/-- How the jobs are run. -/
def jobSettings (c : Config) : Jobs.Settings :=
  ⟨c.expireSeconds, c.declineSeconds, c.batch, c.systemActor⟩

/-- The JSON object of a configuration. -/
def toObject (c : Config) : Json := .obj
  [("database_url", toJson c.databaseUrl), ("database_max_connections", toJson c.maxConnections),
    ("host", toJson c.host), ("port", toJson c.port), ("environment", toJson c.environment),
    ("expiration_job_interval_secs", toJson c.expireSeconds),
    ("risk_decline_job_interval_secs", toJson c.declineSeconds),
    ("risk_decline_batch_size", toJson c.batch), ("system_actor", toJson c.systemActor),
    ("jobs_enabled", toJson c.jobsEnabled), ("is_production", toJson c.isProduction),
    ("jobs", c.jobSettings.toObject)]

end Config
end LoanDesk
