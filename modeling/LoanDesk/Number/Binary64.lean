/-
# Binary floating point of 64 bits

What becomes of the numbers of a body of `api/routes` that are not whole.

The numbers of a JSON text that are not whole: a sign, a mantissa below `2 ^ 53` and a power of two.
Arithmetic is exact on natural numbers, followed by one rounding to the nearest such number, ties to
the even mantissa.

`ofScientific` is the reading rule for `m · 10 ^ e`: the mantissa is rounded once, the power of ten
once, and their product or quotient once more; a power below `10 ^ -308` is taken in several steps.
-/

namespace LoanDesk

/-- `mantissa · 2 ^ exponent` with a sign. Numbers are kept with 53 bits, or with the least
exponent. -/
structure Binary64 where
  negative : Bool
  mantissa : Nat
  exponent : Int
  deriving DecidableEq, Repr

namespace Binary64

/-- The least exponent. -/
def minExponent : Int := -1074

/-- The greatest exponent. -/
def maxExponent : Int := 971

/-- The nearest whole number to a quotient, ties to the even one. -/
def roundQuotient (n d : Nat) : Nat :=
  let q := n / d
  let r := n % d
  if 2 * r < d then q else if 2 * r > d then q + 1 else if q % 2 = 0 then q else q + 1

/-- `n / d` measured in units of `2 ^ e`, rounded. -/
def inUnits (n d : Nat) (e : Int) : Nat :=
  if 0 ≤ e then roundQuotient n (d * Nat.pow 2 e.toNat)
  else roundQuotient (n * Nat.pow 2 (-e).toNat) d

/-- `n / d` is at least `2 ^ k`. -/
def reaches (n d : Nat) (k : Int) : Bool :=
  if 0 ≤ k then d * Nat.pow 2 k.toNat ≤ n else d ≤ n * Nat.pow 2 (-k).toNat

/-- The power of two that `n / d` lies above, for `n` and `d` above zero. -/
def magnitude (n d : Nat) : Int :=
  let k : Int := (n.log2 : Int) - d.log2
  if reaches n d k then k else k - 1

/-- The nearest number to a quotient of natural numbers; none where it is too large. -/
def ofQuotient? (negative : Bool) (n d : Nat) : Option Binary64 :=
  if n = 0 then some ⟨negative, 0, minExponent⟩
  else
    let e := max minExponent (magnitude n d - 52)
    let m := inUnits n d e
    let r : Binary64 :=
      if m = Nat.pow 2 53 then ⟨negative, Nat.pow 2 52, e + 1⟩ else ⟨negative, m, e⟩
    if r.exponent ≤ maxExponent then some r else none

/-- The worth without its sign, as a quotient. -/
def quotient (x : Binary64) : Nat × Nat :=
  if 0 ≤ x.exponent then (x.mantissa * Nat.pow 2 x.exponent.toNat, 1)
  else (x.mantissa, Nat.pow 2 (-x.exponent).toNat)

/-- The rounded product, with the sign of `x`. -/
def timesNat? (x : Binary64) (n : Nat) : Option Binary64 :=
  ofQuotient? x.negative (x.quotient.1 * n) x.quotient.2

/-- The rounded quotient, with the sign of `x`. -/
def overNat? (x : Binary64) (n : Nat) : Option Binary64 :=
  ofQuotient? x.negative x.quotient.1 (x.quotient.2 * n)

/-- `10 ^ k` rounded: a whole number for every `k` up to 308. -/
def powerOfTen (k : Nat) : Nat :=
  match ofQuotient? false (Nat.pow 10 k) 1 with
  | some x => x.quotient.1 / x.quotient.2
  | none => 0

/-- Division by `10 ^ k` in steps of at most `10 ^ 308`; zero stays zero. -/
def overPowerOfTen? (x : Binary64) (k : Nat) : Option Binary64 :=
  if x.mantissa = 0 then some x
  else if k ≤ 308 then x.overNat? (powerOfTen k)
  else (x.overNat? (powerOfTen 308)).bind fun y => y.overPowerOfTen? (k - 308)
termination_by k

/-- The number written as a mantissa below `2 ^ 64` and a power of ten. -/
def ofScientific? (negative : Bool) (mantissa : Nat) (exponent : Int) : Option Binary64 :=
  (ofQuotient? negative mantissa 1).bind fun x =>
    if exponent < 0 then x.overPowerOfTen? (-exponent).toNat
    else if exponent ≤ 308 then x.timesNat? (powerOfTen exponent.toNat)
    else if x.mantissa = 0 then some x
    else none

end Binary64
end LoanDesk
