import Converge.Yaml.Token

/-!
# The layout of a text

`Token.ofText?` reads the tokens of a whole text. Indentation opens and closes collections in
block style; between brackets it means nothing. A key is known for one only when its colon is met,
so the layout keeps a place for each level of brackets at which a key may have started, and puts
the token of the key, and of the mapping that it opens, before that place. Such a place is given
up when the line ends or is too long.
-/

namespace Converge.Yaml

open Glyph

/-- A place at which a key may start: the number of tokens before it, its first character, and
whether nothing but a key may stand there. -/
structure KeyPlace where
  before : Nat
  start : Glyph
  isRequired : Bool

namespace KeyPlace

/-- The greatest number of octets of a key that is not announced. -/
def longest : Nat := 1024

/-- Whether a key that starts at a place cannot go on to a glyph. -/
def isStale (glyph : Glyph) (place : KeyPlace) : Bool :=
  place.start.line < glyph.line || place.start.index + longest < glyph.index

/-- A place after it is known that there is no key; none if there has to be one. -/
def giveUp : Option KeyPlace → Option (Option KeyPlace)
  | some place => if place.isRequired then none else some none
  | none => some none

/-- What becomes of a place when a glyph is reached. -/
def reach (glyph : Glyph) (place : Option KeyPlace) : Option (Option KeyPlace) :=
  if place.any (isStale glyph) then giveUp place else some place

end KeyPlace

/-- The state of reading tokens: the columns of the open collections in block style, the innermost
first; the place of a key in the innermost brackets and in each of the brackets around them;
whether a key may start here; and the tokens so far, the last one first, with their number. -/
structure Layout where
  columns : List Nat
  place : Option KeyPlace
  outer : List (Option KeyPlace)
  allowsKey : Bool
  tokens : List Token
  count : Nat

namespace Layout

/-- The state at the start of a text. -/
def start : Layout := ⟨[], none, [], true, [], 0⟩

/-- Whether brackets are open. -/
def inFlow (layout : Layout) : Bool := !layout.outer.isEmpty

/-- The least column of what belongs to the innermost collection in block style. -/
def least (layout : Layout) : Nat := (layout.columns.head?.map (· + 1)).getD 0

/-- One more token. -/
def emit (token : Token) (layout : Layout) : Layout :=
  { layout with tokens := token :: layout.tokens, count := layout.count + 1 }

/-- One more token, behind as many tokens as are given. -/
def emitAt (before : Nat) (token : Token) (layout : Layout) : Layout :=
  let later := layout.count - before
  { layout with
    tokens := layout.tokens.take later ++ token :: layout.tokens.drop later
    count := layout.count + 1 }

/-- A collection in block style at a column, unless one is open there or deeper. Its token stands
behind as many tokens as are given. -/
def openBlock (column before : Nat) (token : Token) (layout : Layout) : Layout :=
  if !layout.inFlow && layout.columns.head?.all (· < column) then
    { layout with columns := column :: layout.columns }.emitAt before token
  else layout

/-- The end of the collections in block style whose columns satisfy a test. -/
def closeWhile (test : Nat → Bool) (layout : Layout) : Layout :=
  if layout.inFlow then layout
  else
    let closed := (layout.columns.takeWhile test).length
    { layout with
      columns := layout.columns.dropWhile test
      tokens := List.replicate closed .blockEnd ++ layout.tokens
      count := layout.count + closed }

/-- The layout without a place for a key in the innermost brackets. -/
def dropPlace (layout : Layout) : Option Layout := do
  return { layout with place := ← KeyPlace.giveUp layout.place }

/-- The layout with a place for a key at a glyph, if one may start there. -/
def savePlace (glyph : Glyph) (layout : Layout) : Option Layout :=
  if layout.allowsKey then do
    let layout ← layout.dropPlace
    let isRequired := !layout.inFlow && layout.columns.head? == some glyph.column
    return { layout with place := some ⟨layout.count, glyph, isRequired⟩ }
  else some layout

/-- The layout when a glyph is reached: places of keys too far behind are given up, and
collections in block style that are deeper end. -/
def reach (glyph : Glyph) (layout : Layout) : Option Layout := do
  let place ← KeyPlace.reach glyph layout.place
  let outer ← layout.outer.mapM (KeyPlace.reach glyph)
  return { layout with place, outer }.closeWhile (glyph.column < ·)

/-- Goes to the next token: blanks, comments and line breaks are passed. A line break allows a key
unless brackets are open; where a key may start no tab is a blank. -/
def separate (inFlow : Bool) :
    (allowsKey inComment : Bool) → List Glyph → Bool × List Glyph
  | allowsKey, _, [] => (allowsKey, [])
  | allowsKey, inComment, glyph :: rest =>
    if isBreak glyph.char then separate inFlow (allowsKey || !inFlow) false rest
    else if inComment then separate inFlow allowsKey true rest
    else if glyph.is ' ' || (glyph.is '\t' && (inFlow || !allowsKey)) ||
        (glyph.is byteOrderMark && glyph.column == 0) then
      separate inFlow allowsKey false rest
    else if glyph.is '#' then separate inFlow allowsKey true rest
    else (allowsKey, glyph :: rest)

/-- The mark of a document's start or end, or a directive, which end all collections. -/
def breakDocument (token : Token) (layout : Layout) : Option Layout := do
  let layout ← (layout.closeWhile fun _ => true).dropPlace
  return { layout with allowsKey := false }.emit token

/-- An opening bracket at a glyph. -/
def openFlow (glyph : Glyph) (token : Token) (layout : Layout) : Option Layout := do
  let layout ← layout.savePlace glyph
  return { layout with
    place := none, outer := layout.place :: layout.outer, allowsKey := true }.emit token

/-- A closing bracket. -/
def closeFlow (token : Token) (layout : Layout) : Option Layout := do
  let layout ← layout.dropPlace
  let layout := match layout.outer with
    | [] => layout
    | place :: outer => { layout with place, outer }
  return { layout with allowsKey := false }.emit token

/-- A comma between brackets. -/
def separateFlow (layout : Layout) : Option Layout := do
  let layout ← layout.dropPlace
  return { layout with allowsKey := true }.emit .flowEntry

/-- The mark of an entry of a sequence in block style. -/
def enterBlock (glyph : Glyph) (layout : Layout) : Option Layout := do
  if !layout.inFlow && !layout.allowsKey then none
  else
    let layout ← (layout.openBlock glyph.column layout.count .blockSequence).dropPlace
    return { layout with allowsKey := true }.emit .blockEntry

/-- The mark of a key. -/
def announceKey (glyph : Glyph) (layout : Layout) : Option Layout := do
  if !layout.inFlow && !layout.allowsKey then none
  else
    let layout ← (layout.openBlock glyph.column layout.count .blockMapping).dropPlace
    return { layout with allowsKey := !layout.inFlow }.emit .key

/-- The colon before a value. What stands at the place of a key becomes one. -/
def meetValue (glyph : Glyph) (layout : Layout) : Option Layout :=
  match layout.place with
  | some place =>
    let layout := layout.emitAt place.before .key
    let layout := layout.openBlock place.start.column place.before .blockMapping
    some ({ layout with place := none, allowsKey := false }.emit .value)
  | none =>
    if !layout.inFlow && !layout.allowsKey then none
    else
      let layout := layout.openBlock glyph.column layout.count .blockMapping
      some ({ layout with allowsKey := !layout.inFlow }.emit .value)

/-- A token that may be, or begin, a key, and what is behind it. -/
def withPlace (glyph : Glyph) (read : Option (Token × List Glyph)) (layout : Layout) :
    Option (Layout × List Glyph) := do
  let layout ← layout.savePlace glyph
  let (token, rest) ← read
  return ({ layout with allowsKey := false }.emit token, rest)

/-- A quoted scalar as a token. -/
def readQuoted (quote : Char) (text : List Glyph) : Option (Token × List Glyph) :=
  (Quoted.read quote text).map fun (text, rest) => (.scalar .quoted (String.ofList text), rest)

/-- A block as a token, and what is behind it. -/
def withBlock (style : ScalarStyle) (layout : Layout) (text : List Glyph) :
    Option (Layout × List Glyph) := do
  let layout ← layout.dropPlace
  let (text, rest) ← Block.read (style == .folded) layout.least text
  return ({ layout with allowsKey := true }.emit (.scalar style (String.ofList text)), rest)

/-- A plain scalar as a token, and what is behind it. -/
def withPlain (glyph : Glyph) (text : List Glyph) (layout : Layout) :
    Option (Layout × List Glyph) := do
  let layout ← layout.savePlace glyph
  let scalar ← Plain.read layout.inFlow layout.least text
  let token := Token.scalar .plain (String.ofList scalar.text)
  return ({ layout with allowsKey := scalar.passedBreak }.emit token, scalar.rest)

/-- The characters that start no plain scalar. -/
def indicators : List Char :=
  [ '-', '?', ':', ',', '[', ']', '\x7b', '\x7d', '#', '&', '*', '!', '|', '>', '\x27', '"', '%',
    '@', '\x60' ]

/-- Whether a plain scalar starts with a glyph before a text. -/
def startsPlain (inFlow : Bool) (glyph : Glyph) (rest : List Glyph) : Bool :=
  !(isGap glyph.char || indicators.contains glyph.char) ||
    (glyph.is '-' && !startsWith isBlank rest) ||
    (!inFlow && (glyph.is '?' || glyph.is ':') && !atGap rest)

/-- The next token, whose first glyph stands before a text. -/
def next (glyph : Glyph) (rest : List Glyph) (layout : Layout) : Option (Layout × List Glyph) :=
  let text := glyph :: rest
  let alone (layout : Option Layout) : Option (Layout × List Glyph) :=
    layout.map fun layout => (layout, rest)
  let opensWord := layout.inFlow || atGap rest
  if glyph.column = 0 ∧ glyph.is '%' then do
    let (token, rest) ← Token.readDirective rest
    return (← layout.breakDocument token, rest)
  else match afterMark? '-' text, afterMark? '.' text with
  | some rest, _ => (layout.breakDocument .documentStart).map fun layout => (layout, rest)
  | none, some rest => (layout.breakDocument .documentEnd).map fun layout => (layout, rest)
  | none, none =>
    match glyph.char with
    | '[' => alone (layout.openFlow glyph .flowSequence)
    | '\x7b' => alone (layout.openFlow glyph .flowMapping)
    | ']' => alone (layout.closeFlow .flowSequenceEnd)
    | '\x7d' => alone (layout.closeFlow .flowMappingEnd)
    | ',' => alone layout.separateFlow
    | '*' => layout.withPlace glyph <|
      (Token.readAnchor rest).map fun (name, rest) => (.reference name, rest)
    | '&' => layout.withPlace glyph <|
      (Token.readAnchor rest).map fun (name, rest) => (.anchor name, rest)
    | '!' => layout.withPlace glyph (Token.readTag layout.inFlow text)
    | '\x27' => layout.withPlace glyph (readQuoted '\x27' rest)
    | '"' => layout.withPlace glyph (readQuoted '"' rest)
    | c =>
      if c = '-' ∧ atGap rest then alone (layout.enterBlock glyph)
      else if c = '?' ∧ opensWord then alone (layout.announceKey glyph)
      else if c = ':' ∧ opensWord then alone (layout.meetValue glyph)
      else if c = '|' ∧ !layout.inFlow then layout.withBlock .literal rest
      else if c = '>' ∧ !layout.inFlow then layout.withBlock .folded rest
      else if startsPlain layout.inFlow glyph rest then layout.withPlain glyph text
      else none

/-- Reads the tokens of a text, with `fuel` for each. -/
def run : (fuel : Nat) → Layout → List Glyph → Option Layout
  | 0, _, _ => none
  | fuel + 1, layout, text =>
    match separate layout.inFlow layout.allowsKey false text with
    | (_, []) => (layout.closeWhile fun _ => true).dropPlace
    | (allowsKey, glyph :: rest) => do
      let layout ← { layout with allowsKey }.reach glyph
      let (layout, rest) ← layout.next glyph rest
      run fuel layout rest

end Layout

/-- The tokens of a text; none if it is not made of tokens. -/
def Token.ofText? (text : String) : Option (List Token) := do
  let glyphs ← Glyph.ofText? text
  let layout ← Layout.start.run (glyphs.length + 1) glyphs
  return layout.tokens.reverse

end Converge.Yaml
