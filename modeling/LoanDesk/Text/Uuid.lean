/-
# Universally unique identifiers

The `correlation_id` of `domain/context`.

A 128-bit number with a text of 32 hexadecimal digits in groups of 8, 4, 4, 4 and 12. It is read
with or without its hyphens, in braces, or after `urn:uuid:`; it is written with hyphens, letters
small.
-/

import LoanDesk.Text.Digits

namespace LoanDesk

/-- A number of 128 bits. -/
structure Uuid where
  value : Nat
  value_lt : value < Nat.pow 2 128
  deriving DecidableEq

namespace Uuid

/-- Exactly `n` hexadecimal digits. -/
def hexGroup (n : Nat) (cs : List Char) : Option (List Nat) :=
  if cs.length = n then cs.mapM Text.hexDigit? else none

/-- Groups of 8, 4, 4, 4 and 12 digits with hyphens between them. -/
def hyphenated (cs : List Char) : Option (List Nat) :=
  if cs.length = 36 then
    match cs.splitOn '-' with
    | [a, b, c, d, e] => do
      return (← hexGroup 8 a) ++ (← hexGroup 4 b) ++ (← hexGroup 4 c) ++ (← hexGroup 4 d) ++
        (← hexGroup 12 e)
    | _ => none
  else none

/-- The digits of an identifier in any of its spellings. -/
def digits (cs : List Char) : Option (List Nat) :=
  if cs.length = 32 then cs.mapM Text.hexDigit?
  else if cs.length = 36 then hyphenated cs
  else if cs.length = 38 && cs.head? == some '\x7b' && cs.getLast? == some '\x7d' then
    hyphenated (cs.drop 1).dropLast
  else if cs.length = 45 && cs.take 9 == "urn:uuid:".toList then hyphenated (cs.drop 9)
  else none

/-- The identifier that a text spells. -/
def ofText? (s : String) : Option Uuid :=
  (digits s.toList).bind fun ds =>
    if h : Text.value 16 ds < Nat.pow 2 128 then some ⟨Text.value 16 ds, h⟩ else none

/-- The hyphenated text, letters small. -/
def text (u : Uuid) : String :=
  let cs := Text.padZeros 32 (Text.hexDigits u.value)
  let group (start n : Nat) : List Char := (cs.drop start).take n
  String.ofList <|
    group 0 8 ++ ['-'] ++ group 8 4 ++ ['-'] ++ group 12 4 ++ ['-'] ++ group 16 4 ++ ['-'] ++
      group 20 12

end Uuid
end LoanDesk
