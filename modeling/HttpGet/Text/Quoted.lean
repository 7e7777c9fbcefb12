/-
Quoted texts in messages.

A message that shows a text shows it between double quotes, on one line: the quote and
the backslash are escaped by a backslash, tab, carriage return, line feed and NUL have
letters of their own, and any other character that is not visible is written as its
hexadecimal code point in braces.
-/
import HttpGet.Text.Hex
import HttpGet.Text.Visible

namespace HttpGet

namespace Quoted

/-- How a character is written between the quotes. -/
def encodeChar (c : Char) : List Char :=
  if c = '"' then ['\\', '"']
  else if c = '\\' then ['\\', '\\']
  else if c = '\t' then ['\\', 't']
  else if c = '\r' then ['\\', 'r']
  else if c = '\n' then ['\\', 'n']
  else if c = '\x00' then ['\\', '0']
  else if isVisible c then [c]
  else ['\\', 'u', '{'] ++ hexDigits c.toNat ++ ['}']

/-- A text as messages show it. -/
def encode (text : String) : String :=
  String.ofList ('"' :: text.toList.flatMap encodeChar ++ ['"'])

end Quoted
end HttpGet
