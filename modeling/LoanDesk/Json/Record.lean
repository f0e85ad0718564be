/-
# Records in JSON

The forms that the types of `domain/entities`, `workflow/commands` and `notification` declare for
themselves.

`Coded` is the class of types with a JSON form: `toJson` writes it, `ofJson?` reads it back. A
record is an object, or an array of its field values in their order. A field may be

| field | missing in an object | `null` |
| --- | --- | --- |
| required | refused | as its type says |
| optional | none | none |
| defaulted | its default | as its type says |

An array that ends early lacks its last fields; only defaulted ones may be among them. An object
that gives a known field twice is refused, unknown fields are passed over.
-/

import LoanDesk.Json.Value
import LoanDesk.Number.Decimal
import LoanDesk.Number.Shortest
import LoanDesk.Text.Uuid
import LoanDesk.Time.Instant

namespace LoanDesk

/-- A type whose values have a JSON form. -/
class Coded (α : Type) where
  toJson : α → Json
  ofJson? : Json → Option α

export Coded (toJson ofJson?)

instance : Coded Json := ⟨id, some⟩

instance : Coded String where
  toJson := .str
  ofJson?
    | .str s => some s
    | _ => none

instance : Coded Bool where
  toJson := .bool
  ofJson?
    | .bool b => some b
    | _ => none

/-- A whole number between two bounds. -/
def Json.intWithin? (low high : Int) : Json → Option Int
  | .int n => if low ≤ n && n ≤ high then some n else none
  | _ => none

/-- Whole numbers have 64 bits and a sign. -/
instance : Coded Int := ⟨.int, Json.intWithin? Text.int64Min Text.int64Max⟩

/-- Counts have 64 bits. -/
instance : Coded Nat where
  toJson n := .int n
  ofJson? j := (Json.intWithin? 0 (UInt64.size - 1) j).map Int.toNat

/-- Decimals are written as text, which keeps their places, and may also be read from numbers. -/
instance : Coded Decimal where
  toJson d := .str d.text
  ofJson?
    | .str s => Decimal.ofText? s
    | .int n => Decimal.ofParts? n 0
    | .float x => Decimal.ofText? x.plain
    | _ => none

instance : Coded Instant where
  toJson t := .str t.text
  ofJson?
    | .str s => Instant.ofText? s
    | _ => none

instance : Coded Uuid where
  toJson u := .str u.text
  ofJson?
    | .str s => Uuid.ofText? s
    | _ => none

instance {α : Type} [Coded α] : Coded (Option α) where
  toJson
    | some a => toJson a
    | none => .null
  ofJson?
    | .null => some none
    | j => (ofJson? j).map some

instance {α : Type} [Coded α] : Coded (List α) where
  toJson as := .arr (as.map toJson)
  ofJson?
    | .arr items => items.mapM ofJson?
    | _ => none

instance {α β : Type} [Coded α] [Coded β] : Coded (α × β) where
  toJson p := .arr [toJson p.1, toJson p.2]
  ofJson?
    | .arr [a, b] => do return (← ofJson? a, ← ofJson? b)
    | _ => none

/-- An object that has one field with an empty object in it, taken as that field with nothing in it.
Where a value was set aside before it was known what it is, a word may be spelled so. -/
def Json.emptied : Json → Json
  | .obj [(s, .obj [])] => .obj [(s, .null)]
  | j => j

/-- What a record holds for one of its fields. -/
inductive Slot where
  | value (j : Json)
  | missing
  | beyond

/-- The slots of a record by the names of its fields. -/
abbrev Record := String → Slot

namespace Record

/-- A field that has to be there. -/
def required {α : Type} [Coded α] (r : Record) (name : String) : Option α :=
  match r name with
  | .value j => ofJson? j
  | _ => none

/-- A field that may be missing in an object, and is none then. -/
def optional {α : Type} [Coded α] (r : Record) (name : String) : Option (Option α) :=
  match r name with
  | .value j => ofJson? j
  | .missing => some none
  | .beyond => none

/-- A field with a default. -/
def defaulted {α : Type} [Coded α] (r : Record) (name : String) (default : α) : Option α :=
  match r name with
  | .value j => ofJson? j
  | _ => some default

/-- The record as values that were set aside give it. -/
def emptied (r : Record) : Record := fun name =>
  match r name with
  | .value j => .value j.emptied
  | slot => slot

end Record

namespace Json

/-- The fields of an object that gives none of the names twice. -/
def object? (names : List String) : Json → Option Record
  | .obj fields =>
    if names.all fun n => (fields.filter fun f => f.1 == n).length ≤ 1 then
      some fun name => match lastField? fields name with
        | some j => .value j
        | none => .missing
    else none
  | _ => none

/-- The fields of an array, in the order of their names. -/
def positional? (names : List String) : Json → Option Record
  | .arr items =>
    if items.length ≤ names.length then
      some fun name => match items[names.idxOf name]? with
        | some j => .value j
        | none => .beyond
    else none
  | _ => none

/-- The fields of a record, an object or an array. -/
def record? (names : List String) (j : Json) : Option Record :=
  (object? names j).or (positional? names j)

/-- A word out of a closed list: a string, or an object of one field with that name and no value. -/
def word? : Json → Option String
  | .str s => some s
  | .obj [(s, .null)] => some s
  | _ => none

end Json
end LoanDesk
