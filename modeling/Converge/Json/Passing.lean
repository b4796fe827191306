import Converge.Json.Parser

/-!
# Passing values

`Json.skipValue` passes a value that nobody asked for. Brackets, words, quotes and the form of
numbers count; what numbers and escapes stand for does not, and neither does the depth.
-/

namespace Converge.Json

variable {ε : Type}

/-- Passes what follows the backslash of an escape. -/
def skipEscape : List Char → Except (Stop ε) (List Char)
  | [] => stopAt .endInString []
  | 'u' :: text => (readHex4 text).map (·.2)
  | c :: text =>
    if ['"', '\\', '/', 'b', 'f', 'n', 'r', 't'].contains c then .ok text
    else stopNext .invalidEscape (c :: text)

/-- Passes a quoted text behind its opening quote; `fuel` bounds the number of characters. -/
def skipCharacters : (fuel : Nat) → List Char → Except (Stop ε) (List Char)
  | 0, text => stopAt .endInString text
  | _, [] => stopAt .endInString []
  | fuel + 1, c :: text =>
    if c = '"' then .ok text
    else if c = '\\' then skipEscape text >>= skipCharacters fuel
    else if c < ' ' then stopAt .controlCharacter (c :: text)
    else skipCharacters fuel text

/-- Passes a quoted text behind its opening quote. -/
def skipString (text : List Char) : Except (Stop ε) (List Char) :=
  skipCharacters text.length text

/-- Passes a value that is neither a list nor an object. -/
def skipScalar : List Char → Except (Stop ε) (List Char)
  | '-' :: rest => skipNumber rest
  | '"' :: rest => skipString rest
  | c :: rest =>
    if c.isDigit then skipNumber (c :: rest) else (readScalar (c :: rest)).map (·.2)
  | [] => stopAt .endInValue []

/-- Passes the items of a list behind its bracket, or behind an item if it is not the first. -/
def skipItems (item : List Char → Except (Stop ε) (List Char)) :
    (fuel : Nat) → (first : Bool) → List Char → Except (Stop ε) (List Char)
  | 0, _, text => stopAt .endInList text
  | fuel + 1, first, text =>
    match skipBlanks text with
    | [] => stopAt .endInList []
    | ']' :: rest => .ok rest
    | c :: rest =>
      if first then item (c :: rest) >>= skipItems item fuel false
      else if c = ',' then item rest >>= skipItems item fuel false
      else stopNext .expectedListEnd (c :: rest)

/-- Passes an entry of an object. -/
def skipEntry (item : List Char → Except (Stop ε) (List Char)) (text : List Char) :
    Except (Stop ε) (List Char) :=
  match skipBlanks text with
  | [] => stopAt .endInObject []
  | '"' :: rest => skipString rest >>= readColon >>= item
  | rest => stopNext .keyNotString rest

/-- Passes the entries of an object behind its brace, or behind an entry if it is not the
first. -/
def skipEntries (item : List Char → Except (Stop ε) (List Char)) :
    (fuel : Nat) → (first : Bool) → List Char → Except (Stop ε) (List Char)
  | 0, _, text => stopAt .endInObject text
  | fuel + 1, first, text =>
    match skipBlanks text with
    | [] => stopAt .endInObject []
    | '\x7d' :: rest => .ok rest
    | c :: rest =>
      if first then skipEntry item (c :: rest) >>= skipEntries item fuel false
      else if c = ',' then skipEntry item rest >>= skipEntries item fuel false
      else stopNext .expectedObjectEnd (c :: rest)

/-- Passes a value with lists and objects up to a depth. -/
def skipNested : (depth : Nat) → List Char → Except (Stop ε) (List Char)
  | depth, text =>
    match skipBlanks text, depth with
    | '[' :: rest, depth + 1 => skipItems (skipNested depth) (rest.length + 1) true rest
    | '\x7b' :: rest, depth + 1 => skipEntries (skipNested depth) (rest.length + 1) true rest
    | rest, _ => skipScalar rest

/-- Passes a value; its length bounds its depth. -/
def skipValue (text : List Char) : Except (Stop ε) (List Char) :=
  skipNested text.length text

end Converge.Json
