import PodSwap.Json.Basic
import PodSwap.Text.Hexadecimal

/-!
# JSON text

Values written without blanks, the members of every object by rising key. A string escapes quotes,
backslashes and the controls; everything else stands for itself.
-/

namespace PodSwap.Json

/-- How one character is written in a string. -/
def escapeChar (c : Char) : List Char :=
  if c = '"' then ['\\', '"']
  else if c = '\\' then ['\\', '\\']
  else if c = '\x08' then ['\\', 'b']
  else if c = '\t' then ['\\', 't']
  else if c = '\n' then ['\\', 'n']
  else if c = '\x0c' then ['\\', 'f']
  else if c = '\r' then ['\\', 'r']
  else if c.toNat < 32 then
    ['\\', 'u', '0', '0', Text.hexDigit (c.toNat / 16), Text.hexDigit c.toNat]
  else [c]

/-- A string between quotes. -/
def stringChars (s : String) : List Char :=
  '"' :: (s.toList.flatMap escapeChar ++ ['"'])

/-- The characters of a number. -/
def numberChars : Number → List Char
  | .int n => (toString n).toList
  | .double d => d.text.toList

/-- Texts with commas between them. -/
def commaSeparated : List (List Char) → List Char
  | [] => []
  | [x] => x
  | x :: xs => x ++ ',' :: commaSeparated xs

mutual
/-- The characters of a value. -/
def chars : Json → List Char
  | .null => ['n', 'u', 'l', 'l']
  | .bool true => ['t', 'r', 'u', 'e']
  | .bool false => ['f', 'a', 'l', 's', 'e']
  | .num n => numberChars n
  | .str s => stringChars s
  | .arr items => '[' :: (commaSeparated (charsItems items) ++ [']'])
  | .obj ms =>
    '{' :: (commaSeparated ((Entries.ofList (charsMembers ms)).map fun m =>
      stringChars m.1 ++ ':' :: m.2) ++ ['}'])
termination_by structural j => j

/-- The characters of each item. -/
def charsItems : List Json → List (List Char)
  | [] => []
  | j :: js => chars j :: charsItems js
termination_by structural js => js

/-- Each key with the characters of its value. -/
def charsMembers : List (String × Json) → List (String × List Char)
  | [] => []
  | m :: ms => charsMember m :: charsMembers ms
termination_by structural ms => ms

/-- The key with the characters of its value. -/
def charsMember : String × Json → String × List Char
  | (k, j) => (k, chars j)
termination_by structural m => m
end

/-- The canonical text of a value. -/
def canonical (j : Json) : String := String.ofList j.chars

end PodSwap.Json
