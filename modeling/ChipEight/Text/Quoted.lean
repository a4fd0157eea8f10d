import ChipEight.Text.Numeral
import ChipEight.Text.Unprintable

/-!
# Texts in messages

A text that a message quotes stands in double quotes.  Quotes and backslashes
get a backslash in front, the usual control characters are written as escapes,
and every other character that cannot be seen on its own is written as its
number in braces.
-/

namespace ChipEight
namespace Quoted

/-- A character written as its number in braces. -/
def numbered (c : Char) : List Char :=
  ['\\', 'u', '\x7b'] ++ Nat.toDigits 16 c.toNat ++ ['\x7d']

/-- A character inside a quoted text. -/
def escape (c : Char) : List Char :=
  if c == '\x00' then ['\\', '0']
  else if c == '\t' then ['\\', 't']
  else if c == '\r' then ['\\', 'r']
  else if c == '\n' then ['\\', 'n']
  else if c == '\\' then ['\\', '\\']
  else if c == '\x22' then ['\\', '\x22']
  else if Unprintable.contains c then numbered c
  else [c]

/-- A text in double quotes. -/
def quote (text : String) : String :=
  String.ofList (['\x22'] ++ text.toList.flatMap escape ++ ['\x22'])

end Quoted
end ChipEight
