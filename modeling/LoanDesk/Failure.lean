/-
# Failures

`store/error` (`StoreError`) and `error` (`AppError` as `Failure`); SPEC_FULL.md, 7 and 10.2.

What a store answers where it cannot do as asked (`StoreError`), and what a caller of the desk is
told (`Failure`). A missing row and a row that somebody else holds keep their meaning on the way up;
all other trouble of the store is a storage failure.

`Failure.classify` gives the status and the code of a failure, `Failure.reply` the body that is
sent. Failures on the side of the desk are not spelt out to callers.
-/

import LoanDesk.Refusal

namespace LoanDesk

/-- A column of a row, by name or by its place from zero. -/
inductive ColumnRef where
  | name (column : String)
  | place (index : Nat)
  deriving DecidableEq

/-- A column as messages show it. -/
def ColumnRef.text : ColumnRef → String
  | name column => Text.quoted column
  | place index => Text.ofInt index

/-- Why a statement gave no result. -/
inductive DatabaseError where
  | poolTimedOut
  | poolClosed
  | workerCrashed
  | rowNotFound
  | server (code : Option String) (text : String)
  | columnIsNull (column : ColumnRef)
  deriving DecidableEq

/-- The cause in words. -/
def DatabaseError.message : DatabaseError → String
  | poolTimedOut => "pool timed out while waiting for an open connection"
  | poolClosed => "attempted to acquire a connection on a closed pool"
  | workerCrashed => "attempted to communicate with a crashed background worker"
  | rowNotFound => "no rows returned by a query that expected to return at least one row"
  | server _ text => "error returned from database: " ++ text
  | columnIsNull column =>
    "error occurred while decoding column " ++ column.text ++
      ": unexpected null; try decoding as an `Option`"

/-- Why a store could not do as asked. -/
inductive StoreError where
  | notFound (entity : String) (id : Int)
  | locked (entity : String) (id : Int)
  | duplicate (entity : String) (id : Int)
  | corrupt (table : String) (cause : Refusal)
  | database (cause : DatabaseError)
  deriving DecidableEq

namespace StoreError

/-- A store error in words. -/
def message : StoreError → String
  | notFound entity id => entity ++ " not found: " ++ Text.ofInt id
  | locked entity id => entity ++ " " ++ Text.ofInt id ++ " is locked by another transaction"
  | duplicate entity id => entity ++ " " ++ Text.ofInt id ++ " already exists"
  | corrupt table cause => "Corrupt " ++ table ++ " row: " ++ cause.message
  | database cause => "Database error: " ++ cause.message

/-- Somebody else holds the row. -/
def isLocked : StoreError → Bool
  | locked _ _ => true
  | _ => false

/-- There is no such row. -/
def isNotFound : StoreError → Bool
  | notFound _ _ => true
  | _ => false

/-- The code of a server that could not lock a row at once. -/
def lockNotAvailable : String := "55P03"

/-- The code of a server that found a second row under a unique key. -/
def uniqueViolation : String := "23505"

/-- What a database error means for a statement about one row. -/
def about (entity : String) (id : Int) (cause : DatabaseError) : StoreError :=
  match cause with
  | .server (some code) text =>
    if code = lockNotAvailable then locked entity id
    else if code = uniqueViolation then duplicate entity id
    else database (.server (some code) text)
  | .rowNotFound => notFound entity id
  | cause => database cause

end StoreError

/-- What is wrong with the process environment. -/
inductive ConfigError where
  | missing (name : String)
  | invalid (name : String)
  deriving DecidableEq

/-- A configuration error in words. -/
def ConfigError.message : ConfigError → String
  | missing name => "Missing environment variable: " ++ name
  | invalid name => "Invalid value for environment variable: " ++ name

/-- What a caller of the desk is told. -/
inductive Failure where
  | badRequest (text : String)
  | missingHeader (text : String)
  | notFound (entity : String) (id : Int)
  | busy (entity : String) (id : Int)
  | refused (refusal : Refusal)
  | storage (text : String)
  | internal (text : String)
  | config (cause : ConfigError)
  deriving DecidableEq

namespace Failure

/-- What a store error comes to. -/
def ofStore : StoreError → Failure
  | .notFound entity id => notFound entity id
  | .locked entity id => busy entity id
  | e@(.duplicate _ _) | e@(.corrupt _ _) | e@(.database _) => storage e.message

/-- A failure in words. -/
def message : Failure → String
  | badRequest text => "Invalid request: " ++ text
  | missingHeader text => "Missing required header: " ++ text
  | notFound entity id => entity ++ " not found: " ++ Text.ofInt id
  | busy entity id => entity ++ " " ++ Text.ofInt id ++ " is already being processed, retry later"
  | refused refusal => refusal.message
  | storage text => "Storage error: " ++ text
  | internal text => "Internal error: " ++ text
  | config cause => "Configuration error: " ++ cause.message

/-- The same call may succeed later. -/
def isRetryable : Failure → Bool
  | busy _ _ => true
  | _ => false

/-- What was asked for is not there. -/
def isNotFound : Failure → Bool
  | notFound _ _ => true
  | _ => false

/-- What was asked for is over. -/
def isOver : Failure → Bool
  | refused refusal => refusal.isOver
  | _ => false

/-- The status of the reply and the code in it. -/
def classify : Failure → Nat × String
  | badRequest _ | missingHeader _ => (400, "validation_error")
  | notFound _ _ => (404, "not_found")
  | busy _ _ => (409, "offer_busy")
  | refused (.invalid _) => (400, "validation_error")
  | refused (.unknownWord _ _) => (400, "unknown_variant")
  | refused (.badMove _ _ _) | refused (.finalized _ _) | refused (.expired _) =>
    (409, "invalid_transition")
  | refused (.forbidden _) => (403, "forbidden")
  | storage _ => (500, "storage_error")
  | internal _ => (500, "internal_error")
  | config _ => (500, "config_error")

/-- The status of the reply. -/
def status (f : Failure) : Nat := f.classify.1

/-- What is added to the message in a reply. -/
def details : Failure → Option String
  | badRequest text | missingHeader text => some text
  | refused refusal => if refusal.isOver then some "already_finalized" else none
  | _ => none

/-- The body of the reply. -/
def reply (f : Failure) : Json :=
  let error := if 500 ≤ f.status then "Internal server error" else f.message
  .obj <|
    [("error", .str error), ("error_code", .str f.classify.2),
      ("retryable", .bool f.isRetryable)] ++
      match f.details with
      | some details => [("details", .str details)]
      | none => []

end Failure
end LoanDesk
