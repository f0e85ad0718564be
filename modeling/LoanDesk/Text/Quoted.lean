/-
# Quoted text

The texts that the messages of `domain/error` quote.

A text between double quotes, as messages show it. A double quote and a backslash get a backslash;
tab, line feed, carriage return and the null character have short escapes; any other character that
is unprintable or combining is written as its code point in base sixteen; all else stands as it is.
-/

import LoanDesk.Text.Digits
import LoanDesk.Text.Printable

namespace LoanDesk
namespace Text

/-- One character inside quotes. -/
def quotedChar (c : Char) : List Char :=
  if c = '"' then ['\\', '"']
  else if c = '\\' then ['\\', '\\']
  else if c = '\t' then ['\\', 't']
  else if c = '\n' then ['\\', 'n']
  else if c = '\r' then ['\\', 'r']
  else if c = '\x00' then ['\\', '0']
  else if isCombining c || isUnprintable c then ['\\', 'u', '\x7b'] ++ hexDigits c.toNat ++ ['\x7d']
  else [c]

/-- A text between double quotes. -/
def quoted (s : String) : String :=
  String.ofList ('"' :: s.toList.flatMap quotedChar ++ ['"'])

end Text
end LoanDesk
