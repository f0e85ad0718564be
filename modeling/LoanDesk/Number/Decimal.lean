/-
# Scaled decimals

The rates and amounts of `domain/entities`.

Rates and amounts. A decimal is a whole number of up to 96 bits over a power of ten up to `10 ^ 28`:

| text | `unscaled` | `scale` |
| --- | ---: | ---: |
| `0.25` | 25 | 2 |
| `0.250` | 250 | 3 |
| `-3` | -3 | 0 |

Equal decimals are written alike; `0.25` and `0.250` are two decimals of one worth. The order
compares worth. Zero has no sign, because a whole number has none.

Reading takes an optional sign and digits with at most one point among them. An underscore after the
first digit is skipped. Digits that no longer fit behind the point are cut, rounding half up on the
first of them. A text that is no such number may still be one in scientific notation, with an
exponent of at most 28 either way unless it only takes places away.
-/

import LoanDesk.Text.Digits

namespace LoanDesk

/-- A whole number over a power of ten. -/
structure Decimal where
  unscaled : Int
  scale : Nat
  unscaled_lt : unscaled.natAbs < Nat.pow 2 96
  scale_le : scale ≤ 28
  deriving DecidableEq

namespace Decimal

/-- The decimal of a whole number and a scale, if both fit. -/
def ofParts? (unscaled : Int) (scale : Nat) : Option Decimal :=
  if h : unscaled.natAbs < Nat.pow 2 96 ∧ scale ≤ 28 then some ⟨unscaled, scale, h.1, h.2⟩ else none

/-- Zero without decimal places. -/
def zero : Decimal := ⟨0, 0, by decide, by decide⟩

/-- One without decimal places. -/
def one : Decimal := ⟨1, 0, by decide, by decide⟩

/-- `a` is worth at most what `b` is worth. -/
protected def le (a b : Decimal) : Prop :=
  a.unscaled * Int.pow 10 b.scale ≤ b.unscaled * Int.pow 10 a.scale

/-- `a` is worth less than `b`. -/
protected def lt (a b : Decimal) : Prop :=
  a.unscaled * Int.pow 10 b.scale < b.unscaled * Int.pow 10 a.scale

instance : LE Decimal := ⟨Decimal.le⟩
instance : LT Decimal := ⟨Decimal.lt⟩

instance (a b : Decimal) : Decidable (a ≤ b) := Int.decLe ..
instance (a b : Decimal) : Decidable (a < b) := Int.decLt ..

/-- Decimals are compared as integers, each scaled up by the other's scale. -/
theorem le_def {a b : Decimal} :
    a ≤ b ↔ a.unscaled * Int.pow 10 b.scale ≤ b.unscaled * Int.pow 10 a.scale := Iff.rfl

/-- One decimal is not at most another just if the other is below it. -/
@[simp] theorem not_le {a b : Decimal} : ¬ a ≤ b ↔ b < a := Int.not_le

/-- One decimal is not below another just if the other is at most it. -/
@[simp] theorem not_lt {a b : Decimal} : ¬ a < b ↔ b ≤ a := Int.not_lt

/-- The sign, the whole part and, after a point, `scale` decimal places. -/
def chars (a : Decimal) : List Char :=
  let ds := Text.padded (a.scale + 1) a.unscaled.natAbs
  let whole := ds.take (ds.length - a.scale)
  let places := ds.drop (ds.length - a.scale)
  (if a.unscaled < 0 then ['-'] else []) ++ whole ++ (if a.scale = 0 then [] else '.' :: places)

/-- The text of a decimal; all its places are written. -/
def text (a : Decimal) : String := String.ofList a.chars

/-- One more unit in the last place. Where that no longer fits into 96 bits the last place is given
up, and where there is none left the number is refused. -/
def roundUp (mantissa scale : Nat) : Option (Nat × Nat) :=
  if mantissa + 1 < Nat.pow 2 96 then some (mantissa + 1, scale)
  else if scale = 0 then none
  else some ((mantissa + 5) / 10, scale - 1)

/-- What stands behind the last place that fits: digits and underscores only. The first of the
digits is a half or more of the last place, or less than that. -/
def roundOn (mantissa scale : Nat) (rest : List Char) : Option (Nat × Nat) :=
  if rest.all fun c => c = '_' || (Text.digit? c).isSome then
    match rest.filterMap Text.digit? with
    | d :: _ => if 5 ≤ d then roundUp mantissa scale else some (mantissa, scale)
    | [] => some (mantissa, scale)
  else none

/-- The digits of an unsigned number: what they are worth without the point, and how many of them
stand behind it. `point` tells whether the point was seen, `seen` whether a digit was. From the
first digit that does not fit, the number is rounded. -/
def magnitude (mantissa scale : Nat) (point seen : Bool) : List Char → Option (Nat × Nat)
  | [] => if seen then some (mantissa, scale) else none
  | c :: cs =>
    if point && 28 ≤ scale then roundOn mantissa scale (c :: cs)
    else match Text.digit? c with
    | some d =>
      if mantissa * 10 + d < Nat.pow 2 96 then
        magnitude (mantissa * 10 + d) (if point then scale + 1 else scale) point true cs
      else if point then roundOn mantissa scale (c :: cs)
      else none
    | none =>
      if c = '.' && !point then magnitude mantissa scale true seen cs
      else if c = '_' && seen then magnitude mantissa scale point seen cs
      else none

/-- A number in plain notation. -/
def plain? (cs : List Char) : Option Decimal :=
  match cs with
  | '-' :: cs => do let r ← magnitude 0 0 false false cs; ofParts? (-(r.1 : Int)) r.2
  | '+' :: cs => do let r ← magnitude 0 0 false false cs; ofParts? r.1 r.2
  | cs => do let r ← magnitude 0 0 false false cs; ofParts? r.1 r.2

/-- An exponent: digits that may follow a plus sign, below `2 ^ 32`. -/
def exponent? (cs : List Char) : Option Nat :=
  (Text.natural? (if cs.head? == some '+' then cs.drop 1 else cs)).filter (· < UInt32.size)

/-- A decimal times a power of ten with a whole exponent. Places are given up first; beyond them the
number grows and has none. -/
def shiftUp (a : Decimal) (e : Nat) : Option Decimal :=
  if e ≤ a.scale then ofParts? a.unscaled (a.scale - e)
  else if e ≤ 28 then ofParts? (a.unscaled * Int.pow 10 (e - a.scale)) 0
  else none

/-- The whole number nearest to a quotient, a half away from zero. -/
def roundQuotient (n : Int) (d : Nat) : Int := n.sign * ((n.natAbs + d / 2) / d : Nat)

/-- A decimal over a power of ten. Places beyond the last that fits are rounded away. -/
def shiftDown (a : Decimal) (e : Nat) : Option Decimal :=
  if 28 < e then none
  else if a.scale + e ≤ 28 then ofParts? a.unscaled (a.scale + e)
  else ofParts? (roundQuotient a.unscaled (Nat.pow 10 (a.scale + e - 28))) 28

/-- A number in scientific notation: a plain number, `e` or `E`, and an exponent. -/
def scientific? (cs : List Char) : Option Decimal := do
  let isMark := fun c : Char => c = 'e' || c = 'E'
  let a ← plain? (cs.takeWhile fun c => !isMark c)
  match cs.dropWhile fun c => !isMark c with
  | _ :: '-' :: rest => do let e ← exponent? rest; shiftDown a e
  | _ :: rest => do let e ← exponent? rest; shiftUp a e
  | [] => none

/-- The decimal that a text spells, in plain or else in scientific notation. -/
def ofText? (s : String) : Option Decimal := (plain? s.toList).or (scientific? s.toList)

/-- The decimal as a text column holds it: zero keeps no places. -/
def bare (a : Decimal) : Decimal := if a.unscaled = 0 then zero else a

end Decimal
end LoanDesk
