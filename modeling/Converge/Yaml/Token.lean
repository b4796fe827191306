import Converge.Number.Radix
import Converge.Yaml.Scalar

/-!
# Tokens

The tokens of a YAML text, and the readers of those that need more than one character: names of
anchors, tags, and directives. Collections in block style have tokens of their own for where they
begin and end, which the layout of a text decides.
-/

namespace Converge.Yaml

open Glyph

/-- A token. A tag is a handle and what follows it; the whole tag has an empty handle. -/
inductive Token where
  | versionDirective (major minor : Nat)
  | tagDirective (handle meaning : String)
  | documentStart
  | documentEnd
  | blockSequence
  | blockMapping
  | blockEnd
  | flowSequence
  | flowSequenceEnd
  | flowMapping
  | flowMappingEnd
  | blockEntry
  | flowEntry
  | key
  | value
  | reference (name : String)
  | anchor (name : String)
  | tag (handle suffix : String)
  | scalar (style : ScalarStyle) (text : String)
  deriving DecidableEq, Repr

namespace Token

/-- The characters besides gaps that may follow the name of an anchor. -/
def anchorEnds : List Char := ['?', ':', ',', ']', '\x7d', '%', '@', '\x60']

/-- The name of an anchor, read behind its indicator. -/
def readAnchor (text : List Glyph) : Option (String × List Glyph) :=
  let (name, rest) := spanWhile isNameChar text
  if !name.isEmpty && (atGap rest || startsWith (anchorEnds.contains ·) rest) then
    some (String.ofList name, rest)
  else none

/-- The characters besides those of names that may occur in a tag. -/
def tagChars : List Char :=
  [';', '/', '?', ':', '@', '&', '=', '+', '$', '.', '!', '~', '*', '\x27', '(', ')']

/-- The characters that may occur in a tag only if it is given as a whole. -/
def wholeTagChars : List Char := [',', '[', ']']

/-- Whether a character may occur in a tag. -/
def isTagChar (isWhole : Bool) (c : Char) : Bool :=
  isNameChar c || tagChars.contains c || (isWhole && wholeTagChars.contains c)

/-- One octet of an escape in a tag, and what is behind it. -/
def readOctet : List Glyph → Option (Nat × List Glyph)
  | percent :: high :: low :: rest =>
    if percent.is '%' then
      (Radix.number? 16 [high.char, low.char]).map fun octet => (octet, rest)
    else none
  | _ => none

/-- The number of octets that encode a character, and the bits that the first one adds to its
code point. -/
def leadingOctet? (octet : Nat) : Option (Nat × Nat) :=
  if octet < 0x80 then some (1, octet)
  else if octet < 0xc0 then none
  else if octet < 0xe0 then some (2, octet - 0xc0)
  else if octet < 0xf0 then some (3, octet - 0xe0)
  else if octet < 0xf8 then some (4, octet - 0xf0)
  else none

/-- The code point that some more octets complete, and what is behind them. -/
def readTrailing : (count point : Nat) → List Glyph → Option (Nat × List Glyph)
  | 0, point, text => some (point, text)
  | count + 1, point, text => do
    let (octet, rest) ← readOctet text
    if 0x80 ≤ octet ∧ octet < 0xc0 then readTrailing count (64 * point + (octet - 0x80)) rest
    else none

/-- The character that the octets of an escape encode, and what is behind them. Octets that encode
no character read as the replacement character. -/
def readTagEscape (text : List Glyph) : Option (Char × List Glyph) := do
  let (octet, rest) ← readOctet text
  let (count, bits) ← leadingOctet? octet
  let (point, rest) ← readTrailing (count - 1) bits rest
  return ((Quoted.codePoint? point).getD '\ufffd', rest)

/-- The characters of a tag and what is behind them, with `fuel` for each. -/
def readTagText (isWhole : Bool) : (fuel : Nat) → List Glyph → Option (List Char × List Glyph)
  | 0, _ => none
  | _, [] => some ([], [])
  | fuel + 1, glyph :: rest =>
    if glyph.is '%' then do
      let (c, rest) ← readTagEscape (glyph :: rest)
      let (others, rest) ← readTagText isWhole fuel rest
      return (c :: others, rest)
    else if isTagChar isWhole glyph.char then do
      let (others, rest) ← readTagText isWhole fuel rest
      return (glyph.char :: others, rest)
    else some ([], glyph :: rest)

/-- The handle of a tag: names between exclamation marks, or as much of it as there is. -/
def readHandle (text : List Glyph) : List Char × List Glyph :=
  let (name, rest) := spanWhile isNameChar (text.drop 1)
  if startsWith (· == '!') rest then ('!' :: name ++ ['!'], rest.drop 1) else ('!' :: name, rest)

/-- A tag that is given as a whole between angle brackets, read behind its mark. -/
def readWholeTag (text : List Glyph) : Option (Token × List Glyph) := do
  let (suffix, rest) ← readTagText true (text.length + 1) (text.drop 1)
  if suffix.isEmpty || !startsWith (· == '>') rest then none
  else return (.tag "" (String.ofList suffix), rest.drop 1)

/-- A tag with a handle or without, read from its mark on. The mark alone is a whole tag. -/
def readShortTag (text : List Glyph) : Option (Token × List Glyph) := do
  let (handle, rest) := readHandle text
  let (suffix, rest) ← readTagText false (rest.length + 1) rest
  if 1 < handle.length && handle.getLast? == some '!' then
    if suffix.isEmpty then none
    else return (.tag (String.ofList handle) (String.ofList suffix), rest)
  else
    let suffix := handle.drop 1 ++ suffix
    if suffix.isEmpty then return (.tag "" "!", rest)
    else return (.tag "!" (String.ofList suffix), rest)

/-- A tag, read from its mark on. It ends before a gap, or between brackets before a comma. -/
def readTag (inFlow : Bool) (text : List Glyph) : Option (Token × List Glyph) := do
  let (token, rest) ←
    if startsWith (· == '<') (text.drop 1) then readWholeTag (text.drop 1) else readShortTag text
  if atGap rest || (inFlow && startsWith (· == ',') rest) then return (token, rest) else none

/-- A number of a version: at most nine digits. -/
def readVersionNumber (text : List Glyph) : Option (Nat × List Glyph) := do
  let (digits, rest) := spanWhile Char.isDigit text
  if 9 < digits.length then none else return (← Radix.number? 10 digits, rest)

/-- What a directive of a version says. -/
def readVersion (text : List Glyph) : Option (Token × List Glyph) := do
  let (major, rest) ← readVersionNumber (skipBlanks text)
  if !startsWith (· == '.') rest then none
  else
    let (minor, rest) ← readVersionNumber (rest.drop 1)
    return (.versionDirective major minor, rest)

/-- What a directive of a tag says: a handle, which must be complete, and what it stands for. -/
def readTagMeaning (text : List Glyph) : Option (Token × List Glyph) := do
  let text := skipBlanks text
  if !startsWith (· == '!') text then none
  else
    let (handle, rest) := readHandle text
    if 1 < handle.length && handle.getLast? != some '!' then none
    else if !startsWith isBlank rest then none
    else
      let rest := skipBlanks rest
      let (meaning, rest) ← readTagText true (rest.length + 1) rest
      if meaning.isEmpty || !atGap rest then none
      else return (.tagDirective (String.ofList handle) (String.ofList meaning), rest)

/-- A directive with its line, read behind its indicator. -/
def readDirective (text : List Glyph) : Option (Token × List Glyph) := do
  let (name, rest) := spanWhile isNameChar text
  if !atGap rest then none
  else
    let (token, rest) ←
      if name = ['Y', 'A', 'M', 'L'] then readVersion rest
      else if name = ['T', 'A', 'G'] then readTagMeaning rest
      else none
    return (token, ← skipLineEnd? rest)

end Token

end Converge.Yaml
