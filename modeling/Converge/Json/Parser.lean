import Converge.Json.Number

/-!
# Reading JSON texts

`Json.parse` reads a whole text. In an object the last entry of a key wins, and the entries are put
in ascending order of their keys. Lists and objects nest up to a depth of 127. What the items of a
list and the entries of an object are read by is left open, so that other readers share the rules
for brackets, commas and colons.
-/

namespace Converge.Json

variable {ε : Type}

/-- Reads a value that is neither a list nor an object. -/
def readScalar : Reader ε Json
  | [] => stopAt .endInValue []
  | 'n' :: rest => readWord .null ['u', 'l', 'l'] rest
  | 't' :: rest => readWord (.bool true) ['r', 'u', 'e'] rest
  | 'f' :: rest => readWord (.bool false) ['a', 'l', 's', 'e'] rest
  | '-' :: rest => readNumber true rest
  | '"' :: rest => (readString rest).map fun (text, rest) => (.str text, rest)
  | c :: rest =>
    if c.isDigit then readNumber false (c :: rest) else stopNext .expectedValue (c :: rest)

/-- Reads the items of a list behind its bracket, or behind an item if it is not the first. -/
def readItems (item : Reader ε Json) :
    (fuel : Nat) → (first : Bool) → (read : List Json) → Reader ε (List Json)
  | 0, _, _, text => stopAt .endInList text
  | fuel + 1, first, read, text =>
    let next (text : List Char) : Except (Stop ε) (List Json × List Char) := do
      let (value, text) ← item text
      readItems item fuel false (value :: read) text
    match skipBlanks text with
    | [] => stopAt .endInList []
    | ']' :: rest => .ok (read.reverse, rest)
    | ',' :: rest =>
      if first then next (',' :: rest)
      else
        match skipBlanks rest with
        | [] => stopAt .endInValue []
        | ']' :: rest => stopAt .trailingComma rest
        | rest => next rest
    | rest => if first then next rest else stopNext .expectedListEnd rest

/-- Reads the items of a list behind its bracket. -/
def readList (item : Reader ε Json) : Reader ε (List Json) := fun text =>
  readItems item (text.length + 1) true [] text

/-- Reads the colon behind a key. -/
def readColon (text : List Char) : Except (Stop ε) (List Char) :=
  match skipBlanks text with
  | ':' :: rest => .ok rest
  | [] => stopAt .endInObject []
  | rest => stopNext .expectedColon rest

/-- A reader of an entry behind its key. It is given the entries before it, the last one first, and
may drop the entry. -/
abbrev EntryReader (ε : Type) := (read : List (String × Json)) → (key : String) →
  Reader ε (Option Json)

/-- Reads the entries of an object behind its brace, or behind an entry if it is not the first. -/
def readEntries (entry : EntryReader ε) :
    (fuel : Nat) → (first : Bool) → (read : List (String × Json)) →
      Reader ε (List (String × Json))
  | 0, _, _, text => stopAt .endInObject text
  | fuel + 1, first, read, text =>
    let next (text : List Char) : Except (Stop ε) (List (String × Json) × List Char) :=
      match text with
      | [] => stopAt .endInValue []
      | '"' :: rest => do
        let (key, rest) ← readString rest
        let (value, rest) ← entry read key rest
        readEntries entry fuel false ((value.map fun value => (key, value)).toList ++ read) rest
      | rest => stopNext .keyNotString rest
    match skipBlanks text with
    | [] => stopAt .endInObject []
    | '\x7d' :: rest => .ok (read.reverse, rest)
    | ',' :: rest =>
      if first then next (',' :: rest)
      else
        match skipBlanks rest with
        | '\x7d' :: rest => stopAt .trailingComma rest
        | rest => next rest
    | rest => if first then next rest else stopNext .expectedObjectEnd rest

/-- Reads the entries of an object behind its brace. -/
def readObject (entry : EntryReader ε) : Reader ε (List (String × Json)) := fun text =>
  readEntries entry (text.length + 1) true [] text

/-- Reads an entry behind its key, whatever the key and the entries before it. -/
def readEntry (item : Reader ε Json) : EntryReader ε := fun _ _ text => do
  let (value, rest) ← item (← readColon text)
  return (some value, rest)

/-- Reads a value that may hold lists and objects up to a depth; entries stay as written. -/
def readValue : (depth : Nat) → Reader ε Json
  | depth, text =>
    match skipBlanks text, depth with
    | '[' :: rest, 0 | '\x7b' :: rest, 0 => stopAt .tooDeep rest
    | '[' :: rest, depth + 1 =>
      (readList (readValue depth) rest).map fun (items, rest) => (.arr items, rest)
    | '\x7b' :: rest, depth + 1 =>
      (readObject (readEntry (readValue depth)) rest).map fun (entries, rest) =>
        (.obj entries, rest)
    | rest, _ => readScalar rest

mutual

/-- A value whose objects have one entry for each key, the last one, in ascending order. -/
def settle : Json → Json
  | .arr items => .arr (settleItems items)
  | .obj entries => ofEntries (settleEntries entries)
  | .null => .null
  | .bool value => .bool value
  | .int value => .int value
  | .float value => .float value
  | .str text => .str text

/-- The items of a list, settled. -/
def settleItems : List Json → List Json
  | [] => []
  | item :: items => settle item :: settleItems items

/-- The values of some entries, settled. -/
def settleEntries : List (String × Json) → List (String × Json)
  | [] => []
  | (key, value) :: entries => (key, settle value) :: settleEntries entries

end

/-- Reads a value that may hold lists and objects up to a depth. -/
def readSettled (depth : Nat) : Reader ε Json := fun text =>
  (readValue depth text).map fun (value, rest) => (settle value, rest)

/-- The depth to which lists and objects may nest. -/
def depthLimit : Nat := 127

/-- Reads a whole text. -/
def parse (text : String) : Except (TextError Empty) Json :=
  let read : Except (Stop Empty) Json := do
    let (value, rest) ← readSettled depthLimit text.toList
    readEnd rest
    return value
  read.mapError (·.locate text.toList)

end Converge.Json
