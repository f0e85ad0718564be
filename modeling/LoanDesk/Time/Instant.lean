/-
# Instants

The times of `domain/entities`.

A point in time: whole seconds since the start of 1970 and nanoseconds. A leap second belongs to the
second before it, with nanoseconds from `10 ^ 9` on, so instants are ordered by second, then
nanosecond.

An instant is written in UTC, with no, three, six or nine places of a second, the fewest that are
exact: `2024-05-01T08:00:00.500Z`. It is read from a date, a time and an offset with some freedom:
fields may be short and have blanks before them, `T` may be small or a blank, `Z` may be small, the
colon of an offset may be missing. Places of a second beyond the ninth are cut.
-/

import LoanDesk.Text.Blank
import LoanDesk.Text.Digits
import LoanDesk.Time.Calendar

namespace LoanDesk

/-- Seconds since 1970 and nanoseconds, up to two seconds of them in a leap second. -/
structure Instant where
  second : Int
  nano : Nat
  nano_lt : nano < 2000000000
  deriving DecidableEq

namespace Instant

/-- `a` is not after `b`. -/
protected def le (a b : Instant) : Prop :=
  a.second < b.second ∨ a.second = b.second ∧ a.nano ≤ b.nano

/-- `a` is before `b`. -/
protected def lt (a b : Instant) : Prop :=
  a.second < b.second ∨ a.second = b.second ∧ a.nano < b.nano

instance : LE Instant := ⟨Instant.le⟩
instance : LT Instant := ⟨Instant.lt⟩

instance (a b : Instant) : Decidable (a ≤ b) := inferInstanceAs (Decidable (_ ∨ _))
instance (a b : Instant) : Decidable (a < b) := inferInstanceAs (Decidable (_ ∨ _))

/-- Instants are compared by the second, and within a second by the nanosecond. -/
theorem le_def {a b : Instant} :
    a ≤ b ↔ a.second < b.second ∨ a.second = b.second ∧ a.nano ≤ b.nano := Iff.rfl

/-- An instant is before another by the second, or within one second by the nanosecond. -/
theorem lt_def {a b : Instant} :
    a < b ↔ a.second < b.second ∨ a.second = b.second ∧ a.nano < b.nano := Iff.rfl

/-- The start of 1970. -/
def epoch : Instant := ⟨0, 0, by decide⟩

/-- Seconds of one day. -/
def daySeconds : Int := 86400

/-- The places of a second that are written: none, three, six or nine. -/
def placesOfSecond (nano : Nat) : List Char :=
  if nano = 0 then []
  else if nano % 1000000 = 0 then '.' :: Text.padded 3 (nano / 1000000)
  else if nano % 1000 = 0 then '.' :: Text.padded 6 (nano / 1000)
  else '.' :: Text.padded 9 nano

/-- A year: four digits, or a sign and at least four. -/
def yearChars (y : Int) : List Char :=
  if 0 ≤ y && y ≤ 9999 then Text.padded 4 y.toNat
  else (if y < 0 then '-' else '+') :: Text.padded 4 y.natAbs

/-- The characters of an instant in UTC. -/
def chars (t : Instant) : List Char :=
  let date := Date.civil (t.second / daySeconds)
  let ofDay := (t.second % daySeconds).toNat
  let leap := if 1000000000 ≤ t.nano then 1 else 0
  yearChars date.year ++ '-' :: Text.padded 2 date.month ++ '-' :: Text.padded 2 date.day ++
    'T' :: Text.padded 2 (ofDay / 3600) ++ ':' :: Text.padded 2 (ofDay / 60 % 60) ++
    ':' :: Text.padded 2 (ofDay % 60 + leap) ++ placesOfSecond (t.nano % 1000000000) ++ ['Z']

/-- The text of an instant in UTC. -/
def text (t : Instant) : String := String.ofList t.chars

/-- Up to `width` digits, at least one, after any blanks. -/
def field (width : Nat) (cs : List Char) : Option (Nat × List Char) :=
  let cs := Text.trimStart cs
  let ds := (Text.takeDigits Text.digit? (cs.take width)).1
  if ds.isEmpty then none else some (Text.value 10 ds, cs.drop ds.length)

/-- A year: a sign and any number of digits, or up to four digits. -/
def yearField (cs : List Char) : Option (Int × List Char) :=
  match Text.trimStart cs with
  | '-' :: cs => signed (-1) cs
  | '+' :: cs => signed 1 cs
  | cs => (field 4 cs).map fun r => ((r.1 : Int), r.2)
where
  signed (sign : Int) (cs : List Char) : Option (Int × List Char) :=
    match Text.takeDigits Text.digit? cs with
    | ([], _) => none
    | (ds, rest) => some (sign * Text.value 10 ds, rest)

/-- One given character, after any blanks. -/
def mark (c : Char) (cs : List Char) : Option (List Char) :=
  match Text.trimStart cs with
  | d :: rest => if d = c then some rest else none
  | [] => none

/-- Places of a second: nanoseconds from the first nine digits, the others cut. -/
def fraction (cs : List Char) : Option (Nat × List Char) :=
  match cs with
  | '.' :: rest =>
    match Text.takeDigits Text.digit? rest with
    | ([], _) => none
    | (ds, rest) =>
      some (Text.value 10 (ds.take 9) * Nat.pow 10 (9 - (ds.take 9).length), rest)
  | cs => some (0, cs)

/-- The offset from UTC in seconds: `Z`, the letters `UTC`, or a sign, two digits of hours and two
of minutes. -/
def offset (cs : List Char) : Option (Int × List Char) :=
  match cs with
  | 'Z' :: rest => some (0, rest)
  | 'z' :: rest => some (0, rest)
  | '+' :: rest => clock 1 rest
  | '-' :: rest => clock (-1) rest
  | '\u2212' :: rest => clock (-1) rest
  | u :: t :: c :: rest =>
    if u.toUpper = 'U' && t.toUpper = 'T' && c.toUpper = 'C' then some (0, rest) else none
  | _ => none
where
  twoDigits : List Char → Option (Nat × List Char)
    | a :: b :: rest => do return ((← Text.digit? a) * 10 + (← Text.digit? b), rest)
    | _ => none
  clock (sign : Int) (cs : List Char) : Option (Int × List Char) := do
    let (hours, rest) ← twoDigits cs
    let (minutes, rest) ← twoDigits (rest.dropWhile fun c => c == ':' || Text.isBlank c)
    if 60 ≤ minutes then none
    else return (sign * (hours * 3600 + minutes * 60), rest)

/-- The years that dates reach. -/
def yearInRange (y : Int) : Bool := -262143 ≤ y && y ≤ 262142

/-- An instant from a date, a time of day and an offset, if each of them is in range. Second 60 is
the leap second after second 59. -/
def ofFields? (date : Date) (hour minute second nano : Nat) (shift : Int) : Option Instant :=
  if date.isValid && yearInRange date.year && hour < 24 && minute < 60 && second ≤ 60 &&
      -daySeconds < shift && shift < daySeconds then
    let ofDay : Int := hour * 3600 + minute * 60 + min second 59
    let utc := date.dayNumber * daySeconds + ofDay - shift
    let nano := if second = 60 then nano + 1000000000 else nano
    if h : nano < 2000000000 then
      if yearInRange (Date.civil (utc / daySeconds)).year then some ⟨utc, nano, h⟩ else none
    else none
  else none

/-- The instant that a text gives, all of it, blanks at the end apart. -/
def ofText? (s : String) : Option Instant := do
  let (year, cs) ← yearField s.toList
  let cs ← mark '-' cs
  let (month, cs) ← field 2 cs
  let cs ← mark '-' cs
  let (day, cs) ← field 2 cs
  let cs ← match cs with
    | c :: rest => if c = 't' || c = 'T' || c = ' ' then some rest else none
    | [] => none
  let (hour, cs) ← field 2 cs
  let cs ← mark ':' cs
  let (minute, cs) ← field 2 cs
  let cs ← mark ':' cs
  let (second, cs) ← field 2 cs
  let (nano, cs) ← fraction cs
  let (shift, cs) ← offset (Text.trimStart cs)
  if cs.all Text.isBlank then ofFields? ⟨year, month, day⟩ hour minute second nano shift else none

/-- The start of 2000 in seconds since 1970. -/
def year2000 : Int := 946684800

/-- The whole microsecond that an instant lies in. -/
def floorMicros (t : Instant) : Instant :=
  ⟨t.second + t.nano / 1000000000, t.nano % 1000000000 / 1000 * 1000, by omega⟩

/-- The instant in whole microseconds, the rest cut off towards the start of 2000. -/
def toMicros (t : Instant) : Instant :=
  let micros := ((t.second - year2000) * 1000000000 + t.nano).tdiv 1000
  ⟨year2000 + micros / 1000000, (micros % 1000000).toNat * 1000, by omega⟩

end Instant
end LoanDesk
