/-
# Identity headers

`api/middleware`: `context_from_headers` as `identify`, `header_str` as `textHeader`,
`mask_headers_for_logging` as `masked`.

A caller names itself in the headers of its request: `X-Investor-Id` makes it an investor, otherwise
`X-Actor-Id` names an administrator. One of the two is required. `X-Request-Id` ties the calls of a
caller together where it is an identifier; a caller without one gets a new one elsewhere.

Names are compared without regard to case, and of a repeated header the first counts. A value is
text if it is visible ASCII. Values of headers that carry secrets are not shown.
-/

import LoanDesk.Caller
import LoanDesk.Failure

namespace LoanDesk
namespace Http

/-- Header names and values in the order in which they were sent. -/
abbrev Headers := List (String × String)

/-- ASCII letters made small. -/
def lower (s : String) : String := String.ofList (s.toList.map Char.toLower)

namespace Headers

/-- The first value under a name. -/
def get? (hs : Headers) (name : String) : Option String :=
  (hs.find? fun h => lower h.1 == name).map (·.2)

end Headers

/-- Blanks, tabs and the printable characters of ASCII. -/
def isVisible (s : String) : Bool :=
  s.toList.all fun c => c = '\t' || (' ' ≤ c && c ≤ '~')

/-- The header of investors. -/
def investorHeader : String := "x-investor-id"

/-- The header of administrators. -/
def actorHeader : String := "x-actor-id"

/-- The header that ties calls together. -/
def requestHeader : String := "x-request-id"

/-- The value of a header, which has to be text. -/
def textHeader (hs : Headers) (name : String) : Except Failure (Option String) :=
  match hs.get? name with
  | none => .ok none
  | some value =>
    if isVisible value then .ok (some value)
    else .error (.badRequest (name ++ " is not valid text"))

/-- Who the two headers name. -/
def actorOf (investor actor : Option String) : Except Failure Actor :=
  match investor with
  | some raw =>
    match Text.readInt64 raw with
    | some id => .ok (.investor id)
    | none => .error (.badRequest (investorHeader ++ " must be an integer"))
  | none =>
    match actor.filter fun name => !Text.isBlankText name with
    | some name => .ok (.admin (Text.trim name))
    | none => .error (.missingHeader (actorHeader ++ " or " ++ investorHeader))

/-- The caller that the headers name. -/
def identify (hs : Headers) : Except Failure Caller := do
  let investor ← textHeader hs investorHeader
  let actor ← textHeader hs actorHeader
  let actor ← actorOf investor actor
  let request ← textHeader hs requestHeader
  return ⟨actor, request.bind Uuid.ofText?⟩

/-- The headers whose values are not shown. -/
def secretHeaders : List String := ["authorization", "cookie", "set-cookie", "x-api-key"]

/-- The headers as they may be shown. -/
def masked (hs : Headers) : Headers :=
  hs.map fun (name, value) =>
    let name := lower name
    (name,
      if secretHeaders.contains name then "[REDACTED]"
      else if isVisible value then value
      else "[invalid utf8]")

end Http
end LoanDesk
