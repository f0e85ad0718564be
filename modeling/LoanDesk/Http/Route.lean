/-
# Routes

`api/routes`: `create_router`; SPEC_FULL.md, 11.7.

What the path of a target names, and what may be done there. A path is compared character by
character; where a number is expected any piece will do, at the end of a path any that is not empty,
and whether it is a number is asked afterwards.

| path | methods |
| --- | --- |
| `/requests` | `POST`, `GET` |
| `/requests/:id` | `GET`, `DELETE` |
| `/requests/:id/offers`, `/confirm`, `/cancel` | `POST` |
| `/offers/:id/accept`, `/decline` | `POST` |
| `/investors/:id/offers` | `GET` |
| `/interests/:id/package-created` | `POST` |
| `/contracts/:id/guarantee-end` | `PATCH` |
| `/symbols/:id/withdraw` | `POST` |
| `/admin/scheduler-configs` | `POST` |
| `/admin/scheduler-configs/current`, `/admin/scheduler-jobs` | `GET` |
| `/admin/jobs/run` | `POST` |

`HEAD` is allowed where `GET` is, and gives the same reply without its body.
-/

import LoanDesk.Text.Utf8

namespace LoanDesk
namespace Http

/-- What a caller wants done. A number is still in the text of the path. -/
inductive Endpoint where
  | openRequest
  | listRequests
  | showRequest (id : List Char)
  | deleteRequest (id : List Char)
  | propose (request : List Char)
  | confirm (request : List Char)
  | cancel (request : List Char)
  | accept (offer : List Char)
  | decline (offer : List Char)
  | offersFor (investor : List Char)
  | createPackage (line : List Char)
  | setGuaranteeEnd (contract : List Char)
  | withdraw (symbol : List Char)
  | addCeiling
  | currentCeiling
  | listJobs
  | runJobs
  deriving DecidableEq

/-- What may be done at a path, by method; none where nothing is. -/
def endpoints : List (List Char) → List (String × Endpoint)
  | [a] =>
    if a = "requests".toList then [("POST", .openRequest), ("GET", .listRequests)] else []
  | [a, b] =>
    if a = "requests".toList && !b.isEmpty then
      [("GET", .showRequest b), ("DELETE", .deleteRequest b)]
    else if a = "admin".toList && b = "scheduler-configs".toList then [("POST", .addCeiling)]
    else if a = "admin".toList && b = "scheduler-jobs".toList then [("GET", .listJobs)]
    else []
  | [a, b, c] =>
    if a = "admin".toList then
      if b = "scheduler-configs".toList && c = "current".toList then [("GET", .currentCeiling)]
      else if b = "jobs".toList && c = "run".toList then [("POST", .runJobs)]
      else []
    else if a = "requests".toList then
      if c = "offers".toList then [("POST", .propose b)]
      else if c = "confirm".toList then [("POST", .confirm b)]
      else if c = "cancel".toList then [("POST", .cancel b)]
      else []
    else if a = "offers".toList then
      if c = "accept".toList then [("POST", .accept b)]
      else if c = "decline".toList then [("POST", .decline b)]
      else []
    else if a = "investors".toList && c = "offers".toList then [("GET", .offersFor b)]
    else if a = "interests".toList && c = "package-created".toList then
      [("POST", .createPackage b)]
    else if a = "contracts".toList && c = "guarantee-end".toList then
      [("PATCH", .setGuaranteeEnd b)]
    else if a = "symbols".toList && c = "withdraw".toList then [("POST", .withdraw b)]
    else []
  | _ => []

/-- The pieces of a path that begins with a slash. -/
def segments (path : List Char) : List (List Char) :=
  match path.splitOn '/' with
  | [] :: rest => rest
  | _ => []

/-- The characters of a scheme. -/
def isSchemeChar (c : Char) : Bool := c.isAlphanum || ['+', '-', '.', '~'].contains c

/-- What a target that begins with a scheme and a host names there. -/
def behindHost? (cs : List Char) : Option (List Char) :=
  match cs.dropWhile isSchemeChar with
  | ':' :: '/' :: '/' :: rest => some (rest.dropWhile fun c => c ≠ '/' && c ≠ '?' && c ≠ '#')
  | _ => none

/-- The path and the query of a target; what follows a number sign is no part of it. A target with a
scheme and a host always has a path, one without them and without a slash at the front has none. -/
def splitTarget (target : String) : List Char × List Char :=
  let split (cs : List Char) : List Char × List Char :=
    let cs := cs.takeWhile (· ≠ '#')
    let path := cs.takeWhile (· ≠ '?')
    (path, cs.drop (path.length + 1))
  match target.toList with
  | '/' :: cs => split ('/' :: cs)
  | cs => match behindHost? cs with
    | some cs =>
      let (path, query) := split cs
      (if path.isEmpty then ['/'] else path, query)
    | none => ([], [])

/-- The endpoint of a method, or the status that says why there is none: no such path, or no such
method there. -/
def findEndpoint (method : String) (path : List Char) : Except Nat Endpoint :=
  match endpoints (segments path) with
  | [] => .error 404
  | found =>
    match found.find? fun e => e.1 == (if method = "HEAD" then "GET" else method) with
    | some e => .ok e.2
    | none => .error 405

/-- The number in a piece of a path, percent escapes resolved. -/
def pathNumber? (piece : List Char) : Option Int := do
  let text ← Text.strict? (Text.percentDecode (Text.utf8Bytes (String.ofList piece)))
  Text.readInt64 text

end Http
end LoanDesk
