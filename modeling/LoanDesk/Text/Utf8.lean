/-
# UTF-8 and percent escapes

What the paths and queries of `api/routes` and the headers of `api/middleware` are read as.

Bytes are natural numbers below 256. `decode` reads bytes one at a time and reports each maximal
piece that is no character as `none`: `strict?` refuses such input, `lossy` puts U+FFFD in its
place. `percentDecode` replaces a percent sign and two hexadecimal digits by the byte they spell and
leaves any other percent sign alone.
-/

import LoanDesk.Text.Digits

namespace LoanDesk
namespace Text

/-- The bytes of a text. -/
def utf8Bytes (s : String) : List Nat := s.toUTF8.toList.map UInt8.toNat

/-- A character begun and not yet complete: how many bytes are missing, the range of the next one,
and the bits so far. -/
structure Unfinished where
  missing : Nat
  low : Nat
  high : Nat
  bits : Nat

/-- What a first byte begins. The range of the second byte rules out overlong forms, surrogates and
numbers above U+10FFFF. -/
def lead? (b : Nat) : Option Unfinished :=
  if 0xC2 ≤ b && b ≤ 0xDF then some ⟨1, 0x80, 0xBF, b - 0xC0⟩
  else if b == 0xE0 then some ⟨2, 0xA0, 0xBF, 0⟩
  else if b == 0xED then some ⟨2, 0x80, 0x9F, 0xD⟩
  else if 0xE1 ≤ b && b ≤ 0xEF then some ⟨2, 0x80, 0xBF, b - 0xE0⟩
  else if b == 0xF0 then some ⟨3, 0x90, 0xBF, 0⟩
  else if 0xF1 ≤ b && b ≤ 0xF3 then some ⟨3, 0x80, 0xBF, b - 0xF0⟩
  else if b == 0xF4 then some ⟨3, 0x80, 0x8F, 4⟩
  else none

/-- A byte where a character may begin: what is complete with it and what stays open. -/
def beginByte (b : Nat) : List (Option Char) × Option Unfinished :=
  if b < 0x80 then ([some (Char.ofNat b)], none)
  else match lead? b with
    | some u => ([], some u)
    | none => ([none], none)

/-- The characters of a list of bytes; `none` for each maximal piece that is none. -/
def decode : Option Unfinished → List Nat → List (Option Char)
  | none, [] => []
  | some _, [] => [none]
  | none, b :: bs => let r := beginByte b; r.1 ++ decode r.2 bs
  | some u, b :: bs =>
    if u.low ≤ b && b ≤ u.high then
      let bits := u.bits * 64 + b % 64
      if u.missing ≤ 1 then some (Char.ofNat bits) :: decode none bs
      else decode (some ⟨u.missing - 1, 0x80, 0xBF, bits⟩) bs
    else let r := beginByte b; none :: r.1 ++ decode r.2 bs

/-- The text of well-formed bytes. -/
def strict? (bs : List Nat) : Option String := ((decode none bs).mapM id).map String.ofList

/-- The text of any bytes, U+FFFD for each piece that is no character. -/
def lossy (bs : List Nat) : String :=
  String.ofList ((decode none bs).map fun c => c.getD '\ufffd')

/-- The byte that two hexadecimal digits spell. -/
def hexPair? (a b : Nat) : Option Nat := do
  let x ← hexDigit? (Char.ofNat a)
  let y ← hexDigit? (Char.ofNat b)
  return x * 16 + y

/-- Bytes with their percent escapes resolved. -/
def percentDecode : List Nat → List Nat
  | 37 :: a :: b :: bs =>
    match hexPair? a b with
    | some n => n :: percentDecode bs
    | none => 37 :: percentDecode (a :: b :: bs)
  | b :: bs => b :: percentDecode bs
  | [] => []

end Text
end LoanDesk
