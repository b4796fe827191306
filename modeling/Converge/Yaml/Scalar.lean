import Converge.Number.Literal
import Converge.Number.Radix
import Converge.Yaml.Glyph

/-!
# Reading scalars

The text of a scalar in each of its styles. Words of plain and quoted scalars are joined across
lines: one line break becomes a space, of several the first one is dropped. Blocks keep their
lines or fold them, and the breaks at their end are cut, kept once, or kept all.
-/

namespace Converge.Yaml

open Glyph

/-- The styles of scalars that are told apart. -/
inductive ScalarStyle where
  | plain
  | quoted
  | literal
  | folded
  deriving DecidableEq, Repr

/-- What lies between two words of a scalar. -/
inductive Gap where
  | blanks (text : List Char)
  | lines (first : Char) (others : List Char)

namespace Gap

/-- The text that joins two words. -/
def text : Gap → List Char
  | blanks text => text
  | lines first others =>
    if first = '\n' then (if others.isEmpty then [' '] else others) else first :: others

/-- Whether there is a line break. -/
def isLines : Gap → Bool
  | blanks _ => false
  | lines _ _ => true

/-- The line breaks at the start of a text and what is behind the blanks around them. A tab must
not stand before a column. -/
def readBreaks (column : Nat) : List Glyph → Option (List Char × List Glyph)
  | [] => some ([], [])
  | glyph :: rest =>
    if isBreak glyph.char then
      (readBreaks column rest).map fun (breaks, rest) => (glyph.char :: breaks, rest)
    else if isBlank glyph.char then
      if glyph.is '\t' && glyph.column < column then none else readBreaks column rest
    else some ([], glyph :: rest)

/-- The gap at the start of a text, and what is behind it. -/
def read (column : Nat) (text : List Glyph) : Option (Gap × List Glyph) :=
  let (opening, rest) := spanWhile isBlank text
  match rest with
  | [] => some (.blanks opening, [])
  | glyph :: after =>
    if isBreak glyph.char then
      (readBreaks column after).map fun (others, rest) => (.lines glyph.char others, rest)
    else some (.blanks opening, glyph :: after)

end Gap

/-- A scalar that was read: its text, whether line breaks were passed behind its last word, and
what is behind it. -/
structure ReadScalar where
  text : List Char
  passedBreak : Bool
  rest : List Glyph

namespace Plain

/-- The characters that end a plain scalar between brackets. -/
def flowIndicators : List Char := [',', '[', ']', '\x7b', '\x7d']

/-- One word of a plain scalar and what is behind it. A colon ends it before a gap; between
brackets no colon may stand before an indicator. -/
def readWord (inFlow : Bool) : List Glyph → Option (List Char × List Glyph)
  | [] => some ([], [])
  | glyph :: rest =>
    if isGap glyph.char then some ([], glyph :: rest)
    else if inFlow && glyph.is ':' && startsWith (('?' :: flowIndicators).contains ·) rest then none
    else if (glyph.is ':' && atGap rest) || (inFlow && flowIndicators.contains glyph.char) then
      some ([], glyph :: rest)
    else (readWord inFlow rest).map fun (word, rest) => (glyph.char :: word, rest)

/-- The words of a plain scalar behind a gap, with `fuel` for each. Lines that start before a
column end it if it is not between brackets. -/
def readWords (inFlow : Bool) (column : Nat) :
    (fuel : Nat) → Gap → List Glyph → Option ReadScalar
  | 0, _, _ => none
  | fuel + 1, gap, text =>
    if atDocumentMark text || startsWith (· == '#') text then some ⟨[], gap.isLines, text⟩
    else do
      let (word, rest) ← readWord inFlow text
      if word.isEmpty then return ⟨[], gap.isLines, rest⟩
      if !startsWith isGap rest then return ⟨gap.text ++ word, false, rest⟩
      let (next, rest) ← Gap.read column rest
      let isOutside := match rest with
        | [] => true
        | glyph :: _ => !inFlow && glyph.column < column
      if isOutside then return ⟨gap.text ++ word, next.isLines, rest⟩
      let others ← readWords inFlow column fuel next rest
      return { others with text := gap.text ++ word ++ others.text }

/-- A plain scalar. -/
def read (inFlow : Bool) (column : Nat) (text : List Glyph) : Option ReadScalar :=
  readWords inFlow column (text.length + 1) (.blanks []) text

end Plain

namespace Quoted

/-- The characters that a backslash and a letter stand for. -/
def shortEscapes : List (Char × Char) :=
  [ ('0', '\x00'), ('a', '\x07'), ('b', '\x08'), ('t', '\t'), ('\t', '\t'), ('n', '\n'),
    ('v', '\x0b'), ('f', '\x0c'), ('r', '\r'), ('e', '\x1b'), (' ', ' '), ('"', '"'), ('/', '/'),
    ('\\', '\\'), ('N', '\x85'), ('_', '\xa0'), ('L', '\u2028'), ('P', '\u2029') ]

/-- The letters behind a backslash that announce a number, and how many digits it has. -/
def numericEscapes : List (Char × Nat) := [('x', 2), ('u', 4), ('U', 8)]

/-- The character of a code point, if there is one. -/
def codePoint? (value : Nat) : Option Char :=
  if value.isValidChar then some (Char.ofNat value) else none

/-- The character that an escape stands for, read behind its backslash, and what is behind it. -/
def readEscape : List Glyph → Option (Char × List Glyph)
  | [] => none
  | glyph :: rest =>
    match shortEscapes.lookup glyph.char, numericEscapes.lookup glyph.char with
    | some c, _ => some (c, rest)
    | none, some count => do
      let digits := chars (rest.take count)
      if digits.length < count then none
      else return (← codePoint? (← Radix.number? 16 digits), rest.drop count)
    | none, none => none

/-- The text up to a quote and what is behind it, with `fuel` for each character or gap. Two
single quotes stand for one; a backslash escapes between double quotes, also the break of a
line. No line may look like the start or the end of a document. -/
def readUpTo (quote : Char) : (fuel : Nat) → List Glyph → Option (List Char × List Glyph)
  | 0, _ => none
  | _, [] => none
  | fuel + 1, glyph :: rest =>
    if atDocumentMark (glyph :: rest) then none
    else if isGap glyph.char then do
      let (gap, rest) ← Gap.read 0 (glyph :: rest)
      let (others, rest) ← readUpTo quote fuel rest
      return (gap.text ++ others, rest)
    else if glyph.char = quote then
      if quote = '\x27' && startsWith (· == quote) rest then do
        let (others, rest) ← readUpTo quote fuel (rest.drop 1)
        return (quote :: others, rest)
      else some ([], rest)
    else if quote = '"' && glyph.is '\\' then
      if startsWith isBreak rest then do
        let (breaks, rest) ← Gap.readBreaks 0 (rest.drop 1)
        let (others, rest) ← readUpTo quote fuel rest
        return (breaks ++ others, rest)
      else do
        let (c, rest) ← readEscape rest
        let (others, rest) ← readUpTo quote fuel rest
        return (c :: others, rest)
    else do
      let (others, rest) ← readUpTo quote fuel rest
      return (glyph.char :: others, rest)

/-- A quoted scalar, read behind its quote. -/
def read (quote : Char) (text : List Glyph) : Option (List Char × List Glyph) :=
  readUpTo quote (text.length + 1) text

end Quoted

namespace Block

/-- What becomes of the line breaks at the end of a block. -/
inductive Chomping where
  | strip
  | clip
  | keep
  deriving DecidableEq, Repr

/-- How a block is read: its chomping, and how much deeper it stands than what it belongs to if
that is said. -/
structure Header where
  chomping : Chomping
  depth : Option Nat

/-- The chomping that a character indicates. -/
def chomping? (c : Char) : Option Chomping :=
  if c = '+' then some .keep else if c = '-' then some .strip else none

/-- The indicator of chomping at the start of a text, if there is one. -/
def readChomping : List Glyph → Option Chomping × List Glyph
  | [] => (none, [])
  | glyph :: rest =>
    match chomping? glyph.char with
    | some chomping => (some chomping, rest)
    | none => (none, glyph :: rest)

/-- The indicator of depth at the start of a text, if there is one; it must not be zero. -/
def readDepth : List Glyph → Option (Option Nat × List Glyph)
  | [] => some (none, [])
  | glyph :: rest =>
    if glyph.is '0' then none
    else if glyph.char.isDigit then some (some (Literal.digitValue glyph.char), rest)
    else some (none, glyph :: rest)

/-- The indicators of a block in either order, and what is behind their line. -/
def readHeader (text : List Glyph) : Option (Header × List Glyph) := do
  let (early, text) := readChomping text
  let (depth, text) ← readDepth text
  let (late, text) := if early.isNone && depth.isSome then readChomping text else (none, text)
  let rest ← skipLineEnd? text
  return (⟨(early.or late).getD .clip, depth⟩, rest)

/-- The line breaks up to the next line with a text, the widest indentation on the way, and what
is behind them. A column bounds the spaces of indentation; no tab may be among them. -/
def readIndentation (column : Option Nat) :
    (widest : Nat) → List Glyph → Option (List Char × Nat × List Glyph)
  | widest, [] => some ([], widest, [])
  | widest, glyph :: rest =>
    let indents := column.all (glyph.column < ·)
    if indents && glyph.is ' ' then readIndentation column widest rest
    else if indents && glyph.is '\t' then none
    else
      let widest := max widest glyph.column
      if isBreak glyph.char then
        (readIndentation column widest rest).map fun (breaks, widest, rest) =>
          (glyph.char :: breaks, widest, rest)
      else some ([], widest, glyph :: rest)

/-- The text between two lines: the break that ended the first one, and the breaks behind it. It
is folded between lines of which neither starts with a blank. -/
def joint (isFolding : Bool) (ending others : List Char) : List Char :=
  if isFolding && ending == ['\n'] then (if others.isEmpty then [' '] else others)
  else ending ++ others

/-- The lines of a block: their text, the break that ends the last one, the breaks behind it, and
what is behind them. -/
structure Lines where
  text : List Char
  ending : List Char
  others : List Char
  rest : List Glyph

/-- The lines at a column, behind a line that starts with a blank or not and with the given breaks
at its end; `fuel` for each line. -/
def readLines (folds : Bool) (column : Nat) :
    (fuel : Nat) → (afterBlank : Bool) → (ending others : List Char) → List Glyph → Option Lines
  | 0, _, _, _, _ => none
  | _, _, ending, others, [] => some ⟨[], ending, others, []⟩
  | fuel + 1, afterBlank, ending, others, glyph :: rest =>
    if glyph.column = column then do
      let startsBlank := isBlank glyph.char
      let before := joint (folds && !afterBlank && !startsBlank) ending others
      let (line, after) := spanWhile (!isBreak ·) (glyph :: rest)
      let (breaks, _, next) ← readIndentation (some column) 0 (after.drop 1)
      let lines ← readLines folds column fuel startsBlank (chars (after.take 1)) breaks next
      return { lines with text := before ++ line ++ lines.text }
    else some ⟨[], ending, others, glyph :: rest⟩

/-- A block, read behind its indicator. `least` is the least column of its lines; it must be
deeper than what it belongs to. -/
def read (folds : Bool) (least : Nat) (text : List Glyph) : Option (List Char × List Glyph) := do
  let (header, text) ← readHeader text
  let said := header.depth.map fun depth => (least - 1) + depth
  let (breaks, widest, text) ← readIndentation said 0 text
  let column := said.getD (max widest (max least 1))
  let lines ← readLines folds column (text.length + 1) false [] breaks text
  let tail := match header.chomping with
    | .strip => []
    | .clip => lines.ending
    | .keep => lines.ending ++ lines.others
  return (lines.text ++ tail, lines.rest)

end Block

end Converge.Yaml
