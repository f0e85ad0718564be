/-
# Reading JSON text

How the values that `store/postgres` gets back, and those that a record is made of, are read.

A value is read from the front of a text; what follows it is handed back. Objects keep all their
fields, a repeated name too, and `canonical` leaves the last of each name.

| number | value |
| --- | --- |
| digits, below `2 ^ 64` | whole |
| minus and digits, not zero, at least `-2 ^ 63` | whole |
| any other | binary, `-0` too |

The significand of a binary number has 64 bits: whole digits that no longer fit move the exponent,
decimal places that no longer fit are dropped. A number beyond the binary range is refused, and so
is a value in more than 127 brackets, an escape that spells half of a surrogate pair, and a control
character inside a string.
-/

import LoanDesk.Json.Value
import LoanDesk.Text.Digits

namespace LoanDesk
namespace Json

/-- The characters after any white space. -/
def skipSpace (cs : List Char) : List Char :=
  cs.dropWhile fun c => c = ' ' || c = '\n' || c = '\t' || c = '\r'

/-- The rest of a text after a given word. -/
def dropWord? : List Char → List Char → Option (List Char)
  | [], cs => some cs
  | w :: ws, c :: cs => if w = c then dropWord? ws cs else none
  | _ :: _, [] => none

/-- Four hexadecimal digits. -/
def codeUnit? : List Char → Option (Nat × List Char)
  | a :: b :: c :: d :: rest => do
    let ds ← [a, b, c, d].mapM Text.hexDigit?
    return (Text.value 16 ds, rest)
  | _ => none

/-- The character after `\u`. A high surrogate needs a low one behind it. -/
def unicodeEscape? (cs : List Char) : Option (Char × List Char) := do
  let (unit, rest) ← codeUnit? cs
  if 0xD800 ≤ unit && unit ≤ 0xDBFF then
    match rest with
    | '\\' :: 'u' :: rest => do
      let (low, rest) ← codeUnit? rest
      if 0xDC00 ≤ low && low ≤ 0xDFFF then
        return (Char.ofNat (0x10000 + (unit - 0xD800) * 0x400 + (low - 0xDC00)), rest)
      else none
    | _ => none
  else if 0xDC00 ≤ unit && unit ≤ 0xDFFF then none
  else return (Char.ofNat unit, rest)

/-- The character that a one-letter escape stands for. -/
def shortEscape? : Char → Option Char
  | '"' => some '"'
  | '\\' => some '\\'
  | '/' => some '/'
  | 'b' => some '\x08'
  | 'f' => some '\x0c'
  | 'n' => some '\n'
  | 'r' => some '\r'
  | 't' => some '\t'
  | _ => none

/-- One character of a string: plain, or an escape. -/
def stringChar? : List Char → Option (Char × List Char)
  | '\\' :: 'u' :: rest => unicodeEscape? rest
  | '\\' :: c :: rest => (shortEscape? c).map fun d => (d, rest)
  | c :: rest => if c = '\\' || c.toNat < 0x20 then none else some (c, rest)
  | [] => none

/-- The characters of a string up to its closing quote. -/
def stringChars? : Nat → List Char → Option (List Char × List Char)
  | 0, _ => none
  | _ + 1, '"' :: rest => some ([], rest)
  | fuel + 1, cs => do
    let (c, rest) ← stringChar? cs
    let (text, rest) ← stringChars? fuel rest
    return (c :: text, rest)

/-- A string of fewer than `fuel` characters, after its opening quote. -/
def string? (fuel : Nat) (cs : List Char) : Option (String × List Char) := do
  let (text, rest) ← stringChars? fuel cs
  return (String.ofList text, rest)

/-- The digits that fit into 64 bits, and how many whole digits follow them. -/
def wholeSignificand (ds : List Nat) : Nat × Nat :=
  ds.foldl (fun r d =>
    if r.2 = 0 && r.1 * 10 + d < UInt64.size then (r.1 * 10 + d, 0) else (r.1, r.2 + 1)) (0, 0)

/-- A significand with the decimal places that fit into 64 bits, and how many they are. -/
def withPlaces (significand count : Nat) : List Nat → Nat × Nat
  | [] => (significand, count)
  | d :: ds =>
    if significand * 10 + d < UInt64.size then withPlaces (significand * 10 + d) (count + 1) ds
    else (significand, count)

/-- A point and at least one digit, or no point. -/
def places? : List Char → Option (List Nat × List Char)
  | '.' :: cs =>
    let r := Text.takeDigits Text.digit? cs
    if r.1.isEmpty then none else some r
  | cs => some ([], cs)

/-- A mark, an optional sign and at least one digit, or no exponent. -/
def exponent? : List Char → Option (Option Int × List Char)
  | c :: cs =>
    if c = 'e' || c = 'E' then
      let (sign, cs) : Int × List Char := match cs with
        | '-' :: cs => (-1, cs)
        | '+' :: cs => (1, cs)
        | cs => (1, cs)
      let r := Text.takeDigits Text.digit? cs
      if r.1.isEmpty then none else some (some (sign * Text.value 10 r.1), r.2)
    else some (none, c :: cs)
  | [] => some (none, [])

/-- Digits that begin with zero only where zero is the only one. -/
def wholeDigits? (cs : List Char) : Option (List Nat × List Char) :=
  match Text.takeDigits Text.digit? cs with
  | ([], _) => none
  | (0 :: _ :: _, _) => none
  | r => some r

/-- A number after its sign. -/
def number? (negative : Bool) (cs : List Char) : Option (Json × List Char) := do
  let (whole, cs) ← wholeDigits? cs
  let isPoint := cs.head? == some '.'
  let (places, cs) ← places? cs
  let (power, cs) ← exponent? cs
  let n := Text.value 10 whole
  let fits := if negative then 0 < n && n ≤ Text.int64Min.natAbs else n < UInt64.size
  if !isPoint && power.isNone && fits then
    return (.int (if negative then -(n : Int) else n), cs)
  else
    let (m, dropped) := wholeSignificand whole
    let (m, count) := withPlaces m 0 places
    let x ← Binary64.ofScientific? negative m ((dropped : Int) - count + power.getD 0)
    return (.float x, cs)

mutual

/-- The value at the front of a text, with at most `depth` brackets around one another. -/
def valueAt? : Nat → Nat → List Char → Option (Json × List Char)
  | 0, _, _ => none
  | fuel + 1, depth, cs =>
    match skipSpace cs with
    | 'n' :: rest => (dropWord? "ull".toList rest).map fun rest => (.null, rest)
    | 't' :: rest => (dropWord? "rue".toList rest).map fun rest => (.bool true, rest)
    | 'f' :: rest => (dropWord? "alse".toList rest).map fun rest => (.bool false, rest)
    | '"' :: rest => (string? fuel rest).map fun r => (.str r.1, r.2)
    | '-' :: rest => number? true rest
    | '[' :: rest =>
      if depth = 0 then none
      else match skipSpace rest with
        | ']' :: rest => some (.arr [], rest)
        | rest => (itemsAt? fuel (depth - 1) rest).map fun r => (.arr r.1, r.2)
    | '\x7b' :: rest =>
      if depth = 0 then none
      else match skipSpace rest with
        | '\x7d' :: rest => some (.obj [], rest)
        | rest => (fieldsAt? fuel (depth - 1) rest).map fun r => (.obj r.1, r.2)
    | rest => number? false rest

/-- The items of an array up to its closing bracket. -/
def itemsAt? : Nat → Nat → List Char → Option (List Json × List Char)
  | 0, _, _ => none
  | fuel + 1, depth, cs => do
    let (item, rest) ← valueAt? fuel depth cs
    match skipSpace rest with
    | ',' :: rest =>
      let (items, rest) ← itemsAt? fuel depth rest
      return (item :: items, rest)
    | ']' :: rest => return ([item], rest)
    | _ => none

/-- The fields of an object up to its closing brace. -/
def fieldsAt? : Nat → Nat → List Char → Option (List (String × Json) × List Char)
  | 0, _, _ => none
  | fuel + 1, depth, cs =>
    match skipSpace cs with
    | '"' :: rest => do
      let (name, rest) ← string? fuel rest
      match skipSpace rest with
      | ':' :: rest =>
        let (value, rest) ← valueAt? fuel depth rest
        match skipSpace rest with
        | ',' :: rest =>
          let (fields, rest) ← fieldsAt? fuel depth rest
          return ((name, value) :: fields, rest)
        | '\x7d' :: rest => return ([(name, value)], rest)
        | _ => none
      | _ => none
    | _ => none

end

/-- The brackets that may stand around one another. -/
def maxDepth : Nat := 127

/-- The value at the front of a text and what follows it. -/
def readFirst? (s : String) : Option (Json × List Char) :=
  valueAt? (2 * s.length + 2) maxDepth s.toList

mutual

/-- A value without its repeated fields: of each name the last is left. -/
def canonical : Json → Json
  | .arr items => .arr (canonicalItems items)
  | .obj fields => .obj (canonicalFields fields)
  | j => j

@[inherit_doc canonical]
def canonicalItems : List Json → List Json
  | [] => []
  | j :: js => canonical j :: canonicalItems js

@[inherit_doc canonical]
def canonicalFields : List (String × Json) → List (String × Json)
  | [] => []
  | (name, j) :: fields =>
    if fields.any (·.1 == name) then canonicalFields fields
    else (name, canonical j) :: canonicalFields fields

end

/-- The value that a text is, white space around it apart. -/
def read? (s : String) : Option Json :=
  match readFirst? s with
  | some (j, rest) => if (skipSpace rest).isEmpty then some j.canonical else none
  | none => none

end Json
end LoanDesk
