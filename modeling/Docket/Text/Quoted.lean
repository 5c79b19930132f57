import Docket.Text.Hex
import Docket.Text.Printable

/-!
# Quoted text

Text between double quotes in which every character can be seen: a quote and
a backslash are escaped, line ends and tabs have short names, and any other
character that shows nothing of its own is written as its code point.
-/

namespace Docket.Text

/-- How one character is written between the quotes. -/
def quotedChar (c : Char) : List Char :=
  if c = '\x00' then ['\\', '0']
  else if c = '\t' then ['\\', 't']
  else if c = '\r' then ['\\', 'r']
  else if c = '\n' then ['\\', 'n']
  else if c = '"' then ['\\', '"']
  else if c = '\\' then ['\\', '\\']
  else if isPrintable c then [c]
  else ['\\', 'u', '\x7b'] ++ hexDigits c.toNat ++ ['\x7d']

/-- The text between quotes. -/
def quoted (s : String) : String :=
  String.ofList ('"' :: s.toList.flatMap quotedChar ++ ['"'])

end Docket.Text
