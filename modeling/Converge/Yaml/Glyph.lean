/-!
# Characters at their places

A YAML text is read as a list of glyphs: each is a character with its place. Line breaks of one
character or two are one glyph, and all of them but the separators of lines and paragraphs read as
line feeds, so nothing that follows has to tell them apart.
-/

namespace Converge.Yaml

/-- Whether a character ends a line. -/
def isBreak (c : Char) : Bool :=
  c == '\n' || c == '\r' || c == '\x85' || c == '\u2028' || c == '\u2029'

/-- Whether a character is a blank within a line. -/
def isBlank (c : Char) : Bool := c == ' ' || c == '\t'

/-- Whether a character ends a word. -/
def isGap (c : Char) : Bool := isBlank c || isBreak c

/-- Whether a character may occur in names of anchors, directives and handles of tags. -/
def isNameChar (c : Char) : Bool := c.isAlphanum || c == '_' || c == '-'

/-- Whether a character may occur in a text at all. -/
def isReadable (c : Char) : Bool :=
  c == '\t' || c == '\n' || c == '\r' || (' ' ≤ c && c ≤ '~') || c == '\x85' ||
    ('\xa0' ≤ c && c != '\ufffe' && c != '\uffff')

/-- The mark of the order of bytes, which may open a line. -/
def byteOrderMark : Char := '\ufeff'

/-- A character and its place: the number of octets before it in the text, the number of lines
before its line, and the number of characters before it on its line. -/
structure Glyph where
  char : Char
  index : Nat
  line : Nat
  column : Nat
  deriving DecidableEq, Repr

namespace Glyph

/-- The glyphs of a text whose first character is at a place. -/
def place : (index line column : Nat) → List Char → List Glyph
  | _, _, _, [] => []
  | index, line, column, '\r' :: '\n' :: rest =>
    ⟨'\n', index, line, column⟩ :: place (index + 2) (line + 1) 0 rest
  | index, line, column, c :: rest =>
    let next := index + c.utf8Size
    if c = '\n' ∨ c = '\r' ∨ c = '\x85' then
      ⟨'\n', index, line, column⟩ :: place next (line + 1) 0 rest
    else if isBreak c then ⟨c, index, line, column⟩ :: place next (line + 1) 0 rest
    else ⟨c, index, line, column⟩ :: place next line (column + 1) rest

/-- The glyphs of a text, if all of its characters may occur. -/
def ofText? (text : String) : Option (List Glyph) :=
  if text.toList.all isReadable then some (place 0 0 0 text.toList) else none

/-- Whether a glyph is a certain character. -/
def is (c : Char) (glyph : Glyph) : Bool := glyph.char == c

/-- The characters of glyphs. -/
def chars (text : List Glyph) : List Char := text.map char

/-- Whether a text starts with a character that satisfies a test. -/
def startsWith (test : Char → Bool) : List Glyph → Bool
  | [] => false
  | glyph :: _ => test glyph.char

/-- Whether a text is at its end or starts with a blank or a line break. -/
def atGap : List Glyph → Bool
  | [] => true
  | glyph :: _ => isGap glyph.char

/-- The longest opening of a text whose characters satisfy a test, and the rest of it. -/
def spanWhile (test : Char → Bool) (text : List Glyph) : List Char × List Glyph :=
  (chars (text.takeWhile fun glyph => test glyph.char), text.dropWhile fun glyph => test glyph.char)

/-- A text without the blanks at its start. -/
def skipBlanks (text : List Glyph) : List Glyph := text.dropWhile fun glyph => isBlank glyph.char

/-- The text behind the blanks and the comment that may end a line, and behind the line break;
none if anything else is on the line. -/
def skipLineEnd? (text : List Glyph) : Option (List Glyph) :=
  let text := skipBlanks text
  let text :=
    if startsWith (· == '#') text then text.dropWhile fun glyph => !isBreak glyph.char else text
  match text with
  | [] => some []
  | glyph :: rest => if isBreak glyph.char then some rest else none

/-- The text behind a mark of three equal characters at the start of a line, which must stand
alone there; none if there is no such mark. -/
def afterMark? (c : Char) : List Glyph → Option (List Glyph)
  | first :: second :: third :: rest =>
    if first.column == 0 && first.is c && second.is c && third.is c && atGap rest then some rest
    else none
  | _ => none

/-- Whether a text starts with the mark of a document's start or end. -/
def atDocumentMark (text : List Glyph) : Bool :=
  (afterMark? '-' text).isSome || (afterMark? '.' text).isSome

end Glyph

end Converge.Yaml
