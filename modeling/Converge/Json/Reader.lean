import Converge.Json.Basic
import Converge.Number.Radix

/-!
# Readers of JSON texts

A `Json.Reader` reads a part of a text and gives what follows. It stops at a fault: the text is no
JSON text there, or the reader does not take what the text says, for reasons of a type of its own.
A fault has a place, which is told as line and column in octets; the place may lie inside a
character that has several of them. This module has the readers of words and of quoted texts.
-/

namespace Converge.Json

/-- Why a text is no JSON text. -/
inductive SyntaxCause where
  | endInList | endInObject | endInString | endInValue
  | expectedColon | expectedListEnd | expectedObjectEnd | expectedWord | expectedValue
  | invalidEscape | invalidNumber | numberTooLarge | controlCharacter
  | keyNotString | loneSurrogate | trailingComma | trailingText | endInHexEscape | tooDeep
  deriving DecidableEq, Repr

/-- The wording of a cause. -/
def SyntaxCause.message : SyntaxCause → String
  | .endInList => "EOF while parsing a list"
  | .endInObject => "EOF while parsing an object"
  | .endInString => "EOF while parsing a string"
  | .endInValue => "EOF while parsing a value"
  | .expectedColon => "expected `:`"
  | .expectedListEnd => "expected `,` or `]`"
  | .expectedObjectEnd => "expected `,` or `\x7d`"
  | .expectedWord => "expected ident"
  | .expectedValue => "expected value"
  | .invalidEscape => "invalid escape"
  | .invalidNumber => "invalid number"
  | .numberTooLarge => "number out of range"
  | .controlCharacter => "control character (\\u0000-\\u001F) found while parsing a string"
  | .keyNotString => "key must be a string"
  | .loneSurrogate => "lone leading surrogate in hex escape"
  | .trailingComma => "trailing comma"
  | .trailingText => "trailing characters"
  | .endInHexEscape => "unexpected end of hex escape"
  | .tooDeep => "recursion limit exceeded"

/-- Why a text is refused: it is no JSON text, or what it says is not taken. -/
inductive Fault (ε : Type) where
  | noJson (cause : SyntaxCause)
  | misfit (cause : ε)
  deriving DecidableEq

/-- A fault inside a text. Its place lies `ahead` octets behind the start of `rest`. -/
structure Stop (ε : Type) where
  fault : Fault ε
  rest : List Char
  ahead : Nat

/-- A reader of a part of a text: what it read and what follows. -/
abbrev Reader (ε α : Type) := List Char → Except (Stop ε) (α × List Char)

variable {ε α : Type}

/-- A fault right after what was read so far. -/
def stopAt (cause : SyntaxCause) (rest : List Char) : Except (Stop ε) α :=
  .error ⟨.noJson cause, rest, 0⟩

/-- A fault at the next octet, which the place lies behind; at the end there is none. -/
def stopNext (cause : SyntaxCause) (rest : List Char) : Except (Stop ε) α :=
  .error ⟨.noJson cause, rest, 1⟩

/-- A refusal of what was read, with its place. -/
def refuseAt (cause : ε) (rest : List Char) : Except (Stop ε) α := .error ⟨.misfit cause, rest, 0⟩

/-- The number of octets of a text. -/
def octets (text : List Char) : Nat := text.foldl (fun number c => number + c.utf8Size) 0

/-- The place behind some octets of a text, which starts at a place. -/
def placeBehind : (place : Nat × Nat) → (octets : Nat) → List Char → Nat × Nat
  | place, _, [] => place
  | (line, column), octets, c :: text =>
    if octets < c.utf8Size then (line, column + octets)
    else if c = '\n' then placeBehind (line + 1, 0) (octets - 1) text
    else placeBehind (line, column + c.utf8Size) (octets - c.utf8Size) text

/-- A fault of a text and its place: the line from 1, the octets before it on the line. -/
structure TextError (ε : Type) where
  fault : Fault ε
  line : Nat
  column : Nat
  deriving DecidableEq

/-- The wording of an error with its place, the reasons for a refusal worded as given. -/
def TextError.message (wording : ε → String) (error : TextError ε) : String :=
  let text := match error.fault with
    | .noJson cause => cause.message
    | .misfit cause => wording cause
  s!"{text} at line {error.line} column {error.column}"

/-- A fault with its place in the whole text. -/
def Stop.locate (text : List Char) (stop : Stop ε) : TextError ε :=
  let place := placeBehind (1, 0) (octets text - octets stop.rest + stop.ahead) text
  ⟨stop.fault, place.1, place.2⟩

/-- A text without the blanks at its start. -/
def skipBlanks (text : List Char) : List Char :=
  text.dropWhile fun c => c == ' ' || c == '\n' || c == '\t' || c == '\r'

/-- Reads the end of a text, behind blanks. -/
def readEnd (text : List Char) : Except (Stop ε) Unit :=
  match skipBlanks text with
  | [] => .ok ()
  | rest => stopNext .trailingText rest

/-- Reads the rest of a word that stands for a value. -/
def readWord (value : α) : List Char → Reader ε α
  | [], text => .ok (value, text)
  | _ :: _, [] => stopAt .endInValue []
  | expected :: word, c :: text =>
    if c = expected then readWord value word text else stopNext .expectedWord (c :: text)

/-- Reads four octets, which have to be hexadecimal digits. -/
def readHex4 : Reader ε Nat := fun text =>
  if octets (text.take 4) < 4 then stopAt .endInString []
  else
    match Radix.number? 16 (text.take 4) with
    | some unit => .ok (unit, text.drop 4)
    | none => .error ⟨.noJson .invalidEscape, text, 4⟩

/-- Reads the second half of a pair of code units whose first half is given. -/
def readSecondUnit (high : Nat) : Reader ε Char
  | '\\' :: 'u' :: text => do
    let (low, text) ← readHex4 text
    if 0xDC00 ≤ low ∧ low ≤ 0xDFFF then
      .ok (Char.ofNat (0x10000 + (high - 0xD800) * 0x400 + (low - 0xDC00)), text)
    else stopAt .loneSurrogate text
  | ['\\'] | [] => stopAt .endInString []
  | '\\' :: text | text => stopNext .endInHexEscape text

/-- Reads what follows the backslash of an escape. -/
def readEscape : Reader ε Char
  | '"' :: text => .ok ('"', text)
  | '\\' :: text => .ok ('\\', text)
  | '/' :: text => .ok ('/', text)
  | 'b' :: text => .ok ('\x08', text)
  | 'f' :: text => .ok ('\x0c', text)
  | 'n' :: text => .ok ('\n', text)
  | 'r' :: text => .ok ('\r', text)
  | 't' :: text => .ok ('\t', text)
  | 'u' :: text => do
    let (unit, text) ← readHex4 text
    if 0xDC00 ≤ unit ∧ unit ≤ 0xDFFF then stopAt .loneSurrogate text
    else if 0xD800 ≤ unit ∧ unit ≤ 0xDBFF then readSecondUnit unit text
    else .ok (Char.ofNat unit, text)
  | [] => stopAt .endInString []
  | text => stopNext .invalidEscape text

/-- Reads a quoted text behind its opening quote; `fuel` bounds the number of characters. -/
def readCharacters : (fuel : Nat) → (read : List Char) → Reader ε String
  | 0, _, text => stopAt .endInString text
  | _, _, [] => stopAt .endInString []
  | fuel + 1, read, c :: text =>
    if c = '"' then .ok (String.ofList read.reverse, text)
    else if c = '\\' then do
      let (escaped, text) ← readEscape text
      readCharacters fuel (escaped :: read) text
    else if c < ' ' then stopAt .controlCharacter text
    else readCharacters fuel (c :: read) text

/-- Reads a quoted text behind its opening quote. -/
def readString : Reader ε String := fun text => readCharacters text.length [] text

end Converge.Json
