/-
# Whole numbers as digits

The whole numbers of `config`, of the paths and queries of `api/routes`, and of the headers of
`api/middleware`.

Reading and writing whole numbers in base ten and base sixteen, on lists of characters. A run of
digits is worth what `value` says; `readInt` reads an optional sign and at least one digit, and
takes nothing else.
-/

namespace LoanDesk
namespace Text

/-- The worth of a decimal digit, ASCII only. -/
def digit? (c : Char) : Option Nat :=
  if '0' ≤ c && c ≤ '9' then some (c.toNat - '0'.toNat) else none

/-- The worth of a hexadecimal digit in either case. -/
def hexDigit? (c : Char) : Option Nat :=
  if '0' ≤ c && c ≤ '9' then some (c.toNat - '0'.toNat)
  else if 'a' ≤ c && c ≤ 'f' then some (c.toNat - 'a'.toNat + 10)
  else if 'A' ≤ c && c ≤ 'F' then some (c.toNat - 'A'.toNat + 10)
  else none

/-- A digit stands for less than ten. -/
theorem digit?_lt {c : Char} {d : Nat} (h : digit? c = some d) : d < 10 := by
  unfold digit? at h
  split at h
  · rename_i hc
    simp only [Bool.and_eq_true, decide_eq_true_eq, Char.le_def, UInt32.le_iff_toNat_le] at hc
    cases h
    simp only [Char.toNat]
    have := hc.2
    have h9 : ('9' : Char).val.toNat = 57 := rfl
    have h0 : ('0' : Char).val.toNat = 48 := rfl
    omega
  · cases h

/-- The worth of a list of digits in base `b`, most significant first. -/
def value (b : Nat) (ds : List Nat) : Nat := ds.foldl (fun n d => n * b + d) 0

/-- Digits of base `b` at the front of a text, and the rest. -/
def takeDigits (digit : Char → Option Nat) : List Char → List Nat × List Char
  | [] => ([], [])
  | c :: cs =>
    match digit c with
    | some d => let r := takeDigits digit cs; (d :: r.1, r.2)
    | none => ([], c :: cs)

/-- A text that is digits and nothing else, and at least one. -/
def natural? (cs : List Char) : Option Nat :=
  match takeDigits digit? cs with
  | (d :: ds, []) => some (value 10 (d :: ds))
  | _ => none

/-- A whole number between `low` and `high`: one optional sign, then digits. A minus sign is taken
only where `low` is below zero. -/
def readInt (low high : Int) (s : String) : Option Int :=
  let unbounded : Option Int :=
    match s.toList with
    | '+' :: cs => (natural? cs).map Int.ofNat
    | '-' :: cs => if low < 0 then (natural? cs).map (fun n => -Int.ofNat n) else none
    | cs => (natural? cs).map Int.ofNat
  unbounded.filter fun n => low ≤ n && n ≤ high

/-- The least and the greatest whole number of 64 bits with a sign. -/
def int64Min : Int := -9223372036854775808

@[inherit_doc int64Min]
def int64Max : Int := 9223372036854775807

/-- A whole number of 64 bits with a sign. -/
def readInt64 (s : String) : Option Int := readInt int64Min int64Max s

/-- The digits of a number in base ten. -/
def decimalDigits (n : Nat) : List Char := Nat.toDigits 10 n

/-- Zeros in front, up to a width. -/
def padZeros (width : Nat) (cs : List Char) : List Char :=
  List.replicate (width - cs.length) '0' ++ cs

/-- A number in base ten, with zeros in front up to a width. -/
def padded (width n : Nat) : List Char := padZeros width (decimalDigits n)

/-- A number in base sixteen, letters small. -/
def hexDigits (n : Nat) : List Char := Nat.toDigits 16 n

/-- A whole number in base ten. -/
def ofInt (n : Int) : String :=
  String.ofList (if n < 0 then '-' :: decimalDigits n.natAbs else decimalDigits n.natAbs)

end Text
end LoanDesk
