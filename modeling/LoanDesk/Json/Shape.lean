/-
# Reading text into a shape

How the bodies that `api/routes` declares are read.

A shape says what a text should hold, and `Shape.scan` reads a text for it from left to right. The
first thing that is wrong ends the reading: the text is malformed there, or what stands there is
well formed and does not fit. What fits is kept as a JSON value of the known fields.

| wanted | read of another value before it is found not to fit |
| --- | --- |
| a scalar, a list, a record | a scalar to its end, of a list or an object the bracket |
| a word | nothing: what begins with neither a quote nor a brace is malformed |

A record is an object, or an array of its field values in order; a known field that is given twice
does not fit. Unknown fields are passed over by `skip`, which asks for brackets, commas and escapes
in their places, and asks neither how deep brackets stand, nor for the range of numbers, nor for the
other half of a surrogate pair.
-/

import LoanDesk.Json.Reader
import LoanDesk.Json.Record

namespace LoanDesk
namespace Json

/-- The rest of a text after the characters of a string that nobody reads. -/
def skipString : List Char → Option (List Char)
  | '"' :: rest => some rest
  | '\\' :: 'u' :: a :: b :: c :: d :: rest =>
    if [a, b, c, d].all fun x => (Text.hexDigit? x).isSome then skipString rest else none
  | '\\' :: c :: rest => if (shortEscape? c).isSome then skipString rest else none
  | c :: rest => if c = '\\' || c.toNat < 0x20 then none else skipString rest
  | [] => none

/-- The rest of a text after a number that nobody reads. -/
def skipNumber (cs : List Char) : Option (List Char) := do
  let (_, cs) ← wholeDigits? cs
  let (_, cs) ← places? cs
  let (_, cs) ← exponent? cs
  return cs

mutual

/-- The rest of a text after a value that nobody reads. -/
def skip : Nat → List Char → Option (List Char)
  | 0, _ => none
  | fuel + 1, cs =>
    match skipSpace cs with
    | 'n' :: rest => dropWord? "ull".toList rest
    | 't' :: rest => dropWord? "rue".toList rest
    | 'f' :: rest => dropWord? "alse".toList rest
    | '"' :: rest => skipString rest
    | '-' :: rest => skipNumber rest
    | '[' :: rest =>
      match skipSpace rest with
      | ']' :: rest => some rest
      | rest => skipItems fuel rest
    | '\x7b' :: rest =>
      match skipSpace rest with
      | '\x7d' :: rest => some rest
      | rest => skipFields fuel rest
    | rest => skipNumber rest

/-- The rest of a text after items and their closing bracket. -/
def skipItems : Nat → List Char → Option (List Char)
  | 0, _ => none
  | fuel + 1, cs => do
    let rest ← skip fuel cs
    match skipSpace rest with
    | ',' :: rest => skipItems fuel rest
    | ']' :: rest => some rest
    | _ => none

/-- The rest of a text after fields and their closing brace. -/
def skipFields : Nat → List Char → Option (List Char)
  | 0, _ => none
  | fuel + 1, cs =>
    match skipSpace cs with
    | '"' :: rest => do
      match skipSpace (← skipString rest) with
      | ':' :: rest =>
        match skipSpace (← skip fuel rest) with
        | ',' :: rest => skipFields fuel rest
        | '\x7d' :: rest => some rest
        | _ => none
      | _ => none
    | _ => none

end

/-- What is wrong with a text: it is no JSON, or it does not hold what is wanted. -/
inductive Fault where
  | malformed
  | misfit
  deriving DecidableEq

/-- What a text should hold. -/
inductive Shape where
  /-- Any value. -/
  | any
  /-- A value without brackets that is accepted. -/
  | scalar (accepts : Json → Bool)
  /-- A word that is accepted, or an object with that one field and nothing in it. -/
  | word (accepts : String → Bool)
  /-- Nothing, or a value of the shape. -/
  | optional (shape : Shape)
  /-- An array of values of the shape. -/
  | list (shape : Shape)
  /-- Fields with their shapes; as a whole they are accepted. -/
  | record (fields : List (String × Shape)) (accepts : Json → Bool)
  /-- An object with fields of these shapes and any others; as a whole it is accepted. -/
  | extensible (fields : List (String × Shape)) (accepts : Json → Bool)

namespace Shape

/-- The values of a type that are no lists and no objects. -/
def of (α : Type) [Coded α] : Shape := scalar fun j => (ofJson? j : Option α).isSome

/-- The words of a vocabulary, or of any other type that words name. -/
def named (α : Type) [Coded α] : Shape := word fun s => (ofJson? (.str s) : Option α).isSome

/-- The fields of a type. -/
def fields (α : Type) [Coded α] (fs : List (String × Shape)) : Shape :=
  record fs fun j => (ofJson? j : Option α).isSome

/-- What was at the front of a text, and the rest. -/
abbrev Front (α : Type) := α × List Char

/-- A reader that takes faults for malformed text. -/
def strictly {α : Type} : Option α → Except Fault α
  | some a => .ok a
  | none => .error .malformed

/-- A condition on what was read. -/
def fits (b : Bool) : Except Fault Unit := if b then .ok () else .error .misfit

/-- The character at the front of a text, blanks before it apart. -/
def expect (c : Char) (cs : List Char) : Except Fault (List Char) :=
  match skipSpace cs with
  | d :: rest => if d = c then .ok rest else .error .malformed
  | [] => .error .malformed

/-- A value without brackets. -/
def scalarAt (fuel : Nat) (cs : List Char) : Except Fault (Front Json) :=
  match skipSpace cs with
  | '[' :: _ => .error .misfit
  | '\x7b' :: _ => .error .misfit
  | cs => strictly (valueAt? fuel 0 cs)

/-- The fault of a value that should be a list or a record and is none. -/
def mismatch {α : Type} (fuel : Nat) (cs : List Char) : Except Fault α := do
  let _ ← scalarAt fuel cs
  .error .misfit

/-- A word in quotes, the opening one read. -/
def wordAt (fuel : Nat) (accepts : String → Bool) (cs : List Char) :
    Except Fault (Front String) := do
  let (s, rest) ← strictly (string? fuel cs)
  fits (accepts s)
  return (s, rest)

/-- A word in quotes, or an object of one field with that name and no value. -/
def namedAt (fuel depth : Nat) (accepts : String → Bool) (cs : List Char) :
    Except Fault (Front Json) :=
  match skipSpace cs with
  | '"' :: rest => do
    let (s, rest) ← wordAt fuel accepts rest
    return (.str s, rest)
  | '\x7b' :: rest => do
    if depth = 0 then .error .malformed
    let (s, rest) ← wordAt fuel accepts (← expect '"' rest)
    let (j, rest) ← scalarAt fuel (← expect ':' rest)
    fits j.isNull
    return (.str s, ← expect '\x7d' rest)
  | _ => .error .malformed

/-- What separates the next item or field from the one before it: nothing from the start. -/
def separator (first : Bool) (cs : List Char) : Except Fault (List Char) :=
  if first then .ok cs else expect ',' cs

mutual

/-- The value of a shape at the front of a text, with no more than `depth` brackets around one
another. -/
def scanAt : Nat → Nat → Shape → List Char → Except Fault (Front Json)
  | 0, _, _, _ => .error .malformed
  | fuel + 1, depth, shape, cs =>
    match shape with
    | .any => strictly (valueAt? fuel depth cs)
    | .scalar accepts => do
      let (j, rest) ← scalarAt fuel cs
      fits (accepts j)
      return (j, rest)
    | .word accepts => namedAt fuel depth accepts cs
    | .optional shape =>
      match skipSpace cs with
      | 'n' :: rest => do return (.null, ← strictly (dropWord? "ull".toList rest))
      | cs => scanAt fuel depth shape cs
    | .list shape =>
      match skipSpace cs with
      | '[' :: rest => do
        if depth = 0 then .error .malformed
        let (items, rest) ← itemsAt fuel (depth - 1) shape true rest
        return (.arr items, rest)
      | cs => mismatch fuel cs
    | .record fields accepts =>
      match skipSpace cs with
      | '[' :: rest => do
        if depth = 0 then .error .malformed
        let (items, rest) ← placesAt fuel (depth - 1) fields true rest
        fits (accepts (.arr items))
        return (.arr items, ← expect ']' rest)
      | '\x7b' :: rest => do
        if depth = 0 then .error .malformed
        let (fields, rest) ← fieldsAt fuel (depth - 1) fields false true [] rest
        fits (accepts (.obj fields))
        return (.obj fields, rest)
      | cs => mismatch fuel cs
    | .extensible fields accepts =>
      match skipSpace cs with
      | '\x7b' :: rest => do
        if depth = 0 then .error .malformed
        let (fields, rest) ← fieldsAt fuel (depth - 1) fields true true [] rest
        fits (accepts (.obj fields))
        return (.obj fields, rest)
      | cs => mismatch fuel cs

/-- Items of one shape up to the closing bracket. -/
def itemsAt : Nat → Nat → Shape → Bool → List Char → Except Fault (Front (List Json))
  | 0, _, _, _, _ => .error .malformed
  | fuel + 1, depth, shape, first, cs =>
    match skipSpace cs with
    | ']' :: rest => .ok ([], rest)
    | cs => do
      let (item, rest) ← scanAt fuel depth shape (← separator first cs)
      let (items, rest) ← itemsAt fuel depth shape false rest
      return (item :: items, rest)

/-- Items for the fields of a record in order, up to the last of them or the closing bracket. -/
def placesAt : Nat → Nat → List (String × Shape) → Bool → List Char →
    Except Fault (Front (List Json))
  | 0, _, _, _, _ => .error .malformed
  | _, _, [], _, cs => .ok ([], cs)
  | fuel + 1, depth, (_, shape) :: fields, first, cs =>
    match skipSpace cs with
    | ']' :: _ => .ok ([], cs)
    | cs => do
      let (item, rest) ← scanAt fuel depth shape (← separator first cs)
      let (items, rest) ← placesAt fuel depth fields false rest
      return (item :: items, rest)

/-- Fields up to the closing brace, put behind those before them. Unknown ones are kept or not. -/
def fieldsAt : Nat → Nat → List (String × Shape) → Bool → Bool → List (String × Json) →
    List Char → Except Fault (Front (List (String × Json)))
  | 0, _, _, _, _, _, _ => .error .malformed
  | fuel + 1, depth, fields, keep, first, before, cs =>
    match skipSpace cs with
    | '\x7d' :: rest => .ok (before, rest)
    | cs => do
      let (name, rest) ← strictly (string? fuel (← expect '"' (← separator first cs)))
      match fields.lookup name with
      | some shape =>
        fits (before.all fun f => f.1 != name)
        let (j, rest) ← scanAt fuel depth shape (← expect ':' rest)
        fieldsAt fuel depth fields keep false (before ++ [(name, j)]) rest
      | none =>
        if keep then
          let (j, rest) ← strictly (valueAt? fuel depth (← expect ':' rest))
          fieldsAt fuel depth fields keep false (before ++ [(name, j)]) rest
        else
          let rest ← strictly (skip fuel (← expect ':' rest))
          fieldsAt fuel depth fields keep false before rest

end

/-- The value of a shape at the front of a text, or its first fault. What follows it is not read. -/
def scan (shape : Shape) (s : String) : Except Fault Json :=
  (scanAt (4 * s.length + 16) maxDepth shape s.toList).map (·.1)

end Shape
end Json
end LoanDesk
