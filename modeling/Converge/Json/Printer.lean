import Converge.Json.Basic
import Converge.Number.Shortest

/-!
# Writing JSON texts

A value on one line, without blanks between the tokens. In a text the double quote, the backslash
and the control characters are escaped, by their short escape if they have one; every other
character stands for itself.
-/

namespace Converge.Json

/-- One character inside a quoted text. -/
def escapeChar (c : Char) : List Char :=
  if c = '"' then ['\\', '"']
  else if c = '\\' then ['\\', '\\']
  else if c = '\n' then ['\\', 'n']
  else if c = '\r' then ['\\', 'r']
  else if c = '\t' then ['\\', 't']
  else if c = '\x08' then ['\\', 'b']
  else if c = '\x0c' then ['\\', 'f']
  else if c < ' ' then
    let digits := Nat.toDigits 16 c.toNat
    ['\\', 'u'] ++ List.replicate (4 - digits.length) '0' ++ digits
  else [c]

/-- A text between double quotes. -/
def quote (text : String) : List Char := '"' :: (text.toList.flatMap escapeChar ++ ['"'])

mutual

/-- The text of a value, in front of what follows it. -/
def write : Json → List Char → List Char
  | .null, rest => 'n' :: 'u' :: 'l' :: 'l' :: rest
  | .bool value, rest => (toString value).toList ++ rest
  | .int value, rest => (toString value).toList ++ rest
  | .float value, rest => value.jsonText.toList ++ rest
  | .str text, rest => quote text ++ rest
  | .arr items, rest => '[' :: writeItems true items (']' :: rest)
  | .obj entries, rest => '\x7b' :: writeEntries true entries ('\x7d' :: rest)

/-- The items of a list, with a comma before each but the first. -/
def writeItems (first : Bool) : List Json → List Char → List Char
  | [], rest => rest
  | item :: items, rest =>
    let written := write item (writeItems false items rest)
    if first then written else ',' :: written

/-- The entries of an object, with a comma before each but the first. -/
def writeEntries (first : Bool) : List (String × Json) → List Char → List Char
  | [], rest => rest
  | (key, value) :: entries, rest =>
    let written := quote key ++ ':' :: write value (writeEntries false entries rest)
    if first then written else ',' :: written

end

/-- The text of a value on one line. -/
def compact (value : Json) : String := String.ofList (write value [])

end Converge.Json
