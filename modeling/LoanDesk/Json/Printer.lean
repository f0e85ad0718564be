/-
# Writing JSON text

How the bodies of `api/routes`, the entities of `domain/entities` and the events of `notification`
are written.

No blanks between the parts; the fields of an object in their order. Inside a string the double
quote, the backslash and the control characters are escaped, the rest stands as it is.

`carried` is what arrives of a value that is sent as text.
-/

import LoanDesk.Json.Reader
import LoanDesk.Number.Shortest

namespace LoanDesk
namespace Json

/-- One character inside a string. -/
def stringChar (c : Char) : List Char :=
  if c = '"' then ['\\', '"']
  else if c = '\\' then ['\\', '\\']
  else if c = '\n' then ['\\', 'n']
  else if c = '\r' then ['\\', 'r']
  else if c = '\t' then ['\\', 't']
  else if c = '\x08' then ['\\', 'b']
  else if c = '\x0c' then ['\\', 'f']
  else if c.toNat < 0x20 then ['\\', 'u'] ++ Text.padZeros 4 (Text.hexDigits c.toNat)
  else [c]

/-- A string between its quotes. -/
def stringText (s : String) : String :=
  String.ofList ('"' :: s.toList.flatMap stringChar ++ ['"'])

mutual

/-- The text of a value. -/
def text : Json → String
  | .null => "null"
  | .bool true => "true"
  | .bool false => "false"
  | .int n => Text.ofInt n
  | .float x => x.json
  | .str s => stringText s
  | .arr items => "[" ++ itemsText items ++ "]"
  | .obj fields => "\x7b" ++ fieldsText fields ++ "\x7d"

/-- The items of an array with commas between them. -/
def itemsText : List Json → String
  | [] => ""
  | [j] => text j
  | j :: js => text j ++ "," ++ itemsText js

/-- The fields of an object with commas between them. -/
def fieldsText : List (String × Json) → String
  | [] => ""
  | [(name, j)] => stringText name ++ ":" ++ text j
  | (name, j) :: fields => stringText name ++ ":" ++ text j ++ "," ++ fieldsText fields

end

/-- What a reader makes of the text of a value. Reading rounds more than once, so a number may come
out as one of its neighbours. -/
def carried (j : Json) : Json := (read? j.text).getD j

end Json
end LoanDesk
