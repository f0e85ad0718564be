/-
# Shortest decimal text

What a rate of `domain/entities` is read from where a body has a binary number.

The fewest decimal digits that read back as the same number, and of those the nearest to it. Each
grid of one, two, … seventeen digits is tried in turn: if any of its points reads back, one of the
two neighbours of the number does.

`plain` writes the digits without an exponent and without a point where no place is needed; `json`
writes a point always, and an exponent outside `10 ^ -5 … 10 ^ 16`.
-/

import LoanDesk.Number.Binary64
import LoanDesk.Text.Digits

namespace LoanDesk
namespace Binary64

/-- `digits · 10 ^ exponent`. -/
structure Digits where
  digits : Nat
  exponent : Int
  deriving DecidableEq, Repr

namespace Digits

/-- The worth as a quotient. -/
def quotient (x : Digits) : Nat × Nat :=
  if 0 ≤ x.exponent then (x.digits * Nat.pow 10 x.exponent.toNat, 1)
  else (x.digits, Nat.pow 10 (-x.exponent).toNat)

/-- Trailing zeros moved into the exponent. -/
def strip (fuel : Nat) (x : Digits) : Digits :=
  match fuel with
  | 0 => x
  | fuel + 1 =>
    if x.digits % 10 = 0 && x.digits ≠ 0 then strip fuel ⟨x.digits / 10, x.exponent + 1⟩ else x

end Digits

/-- The digits read back as the number, its sign apart. -/
def readsBack (x : Binary64) (c : Digits) : Bool :=
  match ofQuotient? x.negative c.quotient.1 c.quotient.2 with
  | some y => y == x
  | none => false

/-- The distance of the digits to the number, over a common denominator. -/
def distance (x : Binary64) (c : Digits) : Nat :=
  let a := x.quotient.1 * c.quotient.2
  let b := c.quotient.1 * x.quotient.2
  -- both quotients are over `x.quotient.2 * c.quotient.2`
  (a - b) + (b - a)

/-- The point below and the point above on the grid of `10 ^ e`. -/
def neighbours (x : Binary64) (e : Int) : Digits × Digits :=
  let q := x.quotient
  let below := if 0 ≤ e then q.1 / (q.2 * Nat.pow 10 e.toNat) else q.1 * Nat.pow 10 (-e).toNat / q.2
  (⟨below, e⟩, ⟨below + 1, e⟩)

/-- The power of ten above the number: `10 ^ k` is greater, `10 ^ (k - 1)` is not. Starts from an
estimate and corrects it. -/
def decimalWidth (x : Binary64) : Int :=
  let q := x.quotient
  let bits : Int := (q.1.log2 : Int) - q.2.log2
  let k := bits * 30103 / 100000 - 1
  let above := fun k : Int =>
    if 0 ≤ k then q.1 < q.2 * Nat.pow 10 k.toNat else q.1 * Nat.pow 10 (-k).toNat < q.2
  if above k then k else if above (k + 1) then k + 1 else if above (k + 2) then k + 2 else k + 3

/-- The first grid, from `n` digits on, with a point that reads back. -/
def searchGrids (x : Binary64) (width : Int) (n : Nat) : Nat → Digits
  | 0 => (neighbours x (width - n)).1
  | fuel + 1 =>
    let (a, b) := neighbours x (width - n)
    match readsBack x a, readsBack x b with
    | true, true => if distance x b < distance x a then b else a
    | true, false => a
    | false, true => b
    | false, false => searchGrids x width (n + 1) fuel

/-- The shortest digits of a number, none for zero. -/
def shortest? (x : Binary64) : Option Digits :=
  if x.mantissa = 0 then none else some ((searchGrids x x.decimalWidth 1 17).strip 17)

/-- The digits, with a point in front of the last places or zeros after them. -/
def positional (x : Digits) : List Char × List Char :=
  let ds := Text.decimalDigits x.digits
  if 0 ≤ x.exponent then (ds ++ List.replicate x.exponent.toNat '0', [])
  else
    let places := (-x.exponent).toNat
    let ds := Text.padZeros (places + 1) ds
    (ds.take (ds.length - places), ds.drop (ds.length - places))

/-- The sign of a number. -/
def signChars (x : Binary64) : List Char := if x.negative then ['-'] else []

/-- Without an exponent, and with a point only where there are places. -/
def plain (x : Binary64) : String :=
  String.ofList <| x.signChars ++
    match x.shortest? with
    | none => ['0']
    | some d =>
      match positional d with
      | (whole, []) => whole
      | (whole, places) => whole ++ '.' :: places

/-- As a JSON number: always with a point or an exponent. -/
def json (x : Binary64) : String :=
  String.ofList <| x.signChars ++
    match x.shortest? with
    | none => ['0', '.', '0']
    | some d =>
      let ds := Text.decimalDigits d.digits
      let top := d.exponent + ds.length
      if -5 < top && top ≤ 16 then
        match positional d with
        | (whole, []) => whole ++ ['.', '0']
        | (whole, places) => whole ++ '.' :: places
      else
        let power := (Text.ofInt (top - 1)).toList
        match ds with
        | [d] => d :: 'e' :: power
        | d :: ds => d :: '.' :: ds ++ 'e' :: power
        | [] => ['0']

end Binary64
end LoanDesk
