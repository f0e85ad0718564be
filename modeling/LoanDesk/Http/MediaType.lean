/-
# Media types

What `api/routes` asks of the media type of a body.

A type, a slash, a subtype that may have a suffix after a plus sign, and parameters after
semicolons. Names are tokens, a parameter's value is a token or stands in double quotes. Blanks may
come before a parameter and after a quoted value.

A body is JSON where its type is `application` and its subtype or its suffix is `json`.
-/

import LoanDesk.Http.Identity

namespace LoanDesk
namespace Http

/-- A media type without its parameters, letters small. -/
structure MediaType where
  type : List Char
  subtype : List Char
  suffix : Option (List Char)
  deriving DecidableEq

namespace MediaType

/-- The characters of names. -/
def isToken (c : Char) : Bool :=
  c.isAlphanum ||
    ['!', '#', '$', '%', '&', '\x27', '*', '+', '-', '.', '^', '_', '\x60', '|', '~'].contains c

/-- The characters inside double quotes. -/
def isQuotable (c : Char) : Bool := 31 < c.toNat && c.toNat ≠ 127

/-- What follows a quoted value: blanks, then the end or a semicolon. -/
def afterQuoted? (cs : List Char) : Option (List Char) :=
  match cs.dropWhile (· = ' ') with
  | [] => some []
  | ';' :: rest => some rest
  | _ => none

/-- A quoted value, not empty, after its first quote, and what follows it. -/
def quotedValue? (cs : List Char) : Option (List Char) :=
  match cs with
  | [] => none
  | first :: rest =>
    if isQuotable first then
      match rest.dropWhile fun c => isQuotable c && c ≠ '"' with
      | '"' :: rest => afterQuoted? rest
      | _ => none
    else none

/-- A value that is a token, and what follows it. -/
def tokenValue? (cs : List Char) : Option (List Char) :=
  match cs.dropWhile isToken with
  | [] => some []
  | ';' :: rest => if isToken (cs.headD ';') then some rest else none
  | _ => none

/-- One parameter after any blanks, and what follows it. -/
def parameter? (cs : List Char) : Option (List Char) :=
  match cs.dropWhile isToken with
  | '=' :: rest =>
    if isToken (cs.headD '=') then
      match rest with
      | '"' :: rest => quotedValue? rest
      | rest => tokenValue? rest
    else none
  | _ => none

/-- Nothing but parameters. -/
def areParameters : Nat → List Char → Bool
  | 0, _ => false
  | fuel + 1, cs =>
    match cs.dropWhile (· = ' ') with
    | [] => true
    | cs =>
      match parameter? cs with
      | some rest => areParameters fuel rest
      | none => false

/-- The subtype and the suffix behind its last plus sign, which is not the first character. -/
def splitSuffix (cs : List Char) : List Char × Option (List Char) :=
  let suffix := (cs.reverse.takeWhile (· ≠ '+')).reverse
  let before := cs.length - suffix.length
  if 1 < before then (cs.take (before - 1), some suffix) else (cs, none)

/-- The media type that a text spells. -/
def ofText? (s : String) : Option MediaType :=
  let cs := s.toList
  match cs.takeWhile isToken, cs.dropWhile isToken with
  | [], _ => none
  | type, '/' :: rest =>
    let subtype := rest.takeWhile isToken
    let (name, suffix) := splitSuffix subtype
    let small := List.map Char.toLower
    let result : MediaType := ⟨small type, small name, suffix.map small⟩
    match rest.dropWhile isToken with
    | [] => some result
    | ';' :: rest =>
      if !subtype.isEmpty && areParameters (rest.length + 1) rest then some result else none
    | _ => none
  | _, _ => none

/-- Bodies of this type are JSON. -/
def isJson (t : MediaType) : Bool :=
  t.type == "application".toList && (t.subtype == "json".toList || t.suffix == some "json".toList)

end MediaType

/-- The headers say that the body is JSON. -/
def saysJson (hs : Headers) : Bool :=
  match hs.get? "content-type" with
  | some value => isVisible value && ((MediaType.ofText? value).any MediaType.isJson)
  | none => false

end Http
end LoanDesk
