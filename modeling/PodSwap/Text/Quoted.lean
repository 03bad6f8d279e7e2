import PodSwap.Text.Printable

/-!
# Quoted text

Text between double quotes, written so that every character of it can be read off: quotes and
backslashes are escaped, line breaks, tabs and the null character have escapes of their own, and
whatever does not stand for itself is written as `\u` with its number in braces.
-/

namespace PodSwap.Text

/-- How one character is written between quotes. -/
def quoteChar (c : Char) : List Char :=
  if c = '\x00' then ['\\', '0']
  else if c = '\t' then ['\\', 't']
  else if c = '\r' then ['\\', 'r']
  else if c = '\n' then ['\\', 'n']
  else if c = '"' then ['\\', '"']
  else if c = '\\' then ['\\', '\\']
  else if isSpelledOut c then
    ['\\', 'u', '\x7b'] ++ (Nat.toDigits 16 c.toNat) ++ ['\x7d']
  else [c]

/-- The text between double quotes. -/
def quoted (s : String) : String :=
  String.ofList (['"'] ++ s.toList.flatMap quoteChar ++ ['"'])

end PodSwap.Text
