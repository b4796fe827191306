import Converge.Number.Shortest
import Converge.Yaml.Glyph
import Converge.Yaml.Resolution

/-!
# Writing documents

`Yaml.write` gives the document of a JSON value: collections in block style, two spaces for each
level, lists at the indentation of their keys. A text is written plainly when nothing in it could
be taken for something else and it reads back as a text; with single quotes if not; as a block
when it has lines; and with double quotes when it holds characters that have to be escaped.
-/

namespace Converge.Yaml

namespace Writer

/-- Whether a character may be written as it is. -/
def isPrintable (c : Char) : Bool :=
  c == '\n' || (' ' ≤ c && c ≤ '~') ||
    ('\xa0' ≤ c && c != byteOrderMark && c != '\ufffe' && c != '\uffff')

/-- Whether two neighbouring characters of a text satisfy a test. -/
def hasNeighbours (test : Char → Char → Bool) (text : List Char) : Bool :=
  (text.zip (text.drop 1)).any fun pair => test pair.1 pair.2

/-- Whether a text is at its end or starts with a gap. -/
def atGap : List Char → Bool
  | [] => true
  | c :: _ => isGap c

/-- The characters with which no plain scalar starts. -/
def openingIndicators : List Char :=
  [ '#', ',', '[', ']', '\x7b', '\x7d', '&', '*', '!', '|', '>', '\x27', '"', '%', '@', '\x60' ]

/-- Whether the start of a text would be taken for something else than a plain scalar. -/
def opensAmbiguously : List Char → Bool
  | [] => false
  | c :: rest =>
    let marked := (c :: rest).take 3
    marked == ['-', '-', '-'] || marked == ['.', '.', '.'] || openingIndicators.contains c ||
      ((c == '?' || c == ':' || c == '-') && atGap rest)

/-- Whether a character behind the first one would be taken for the end of a plain scalar. -/
def endsEarly (text : List Char) : Bool :=
  hasNeighbours (fun before c => isGap before && c == '#') text ||
    hasNeighbours (fun c after => c == ':' && isGap after) text ||
    (1 < text.length && text.getLast? == some ':')

/-- Whether a text has to be written with escapes. -/
def needsEscapes (text : List Char) : Bool :=
  !text.all isPrintable || hasNeighbours (fun before c => before == ' ' && isBreak c) text

/-- Whether a text can stand between single quotes. -/
def allowsSingle (text : List Char) : Bool :=
  !needsEscapes text && !hasNeighbours (fun before c => isBreak before && c == ' ') text

/-- Whether a text can be a block. -/
def allowsBlock (text : List Char) : Bool :=
  !needsEscapes text && text.getLast? != some ' '

/-- Whether a text can be plain as far as its characters go. -/
def allowsPlain (text : List Char) : Bool :=
  allowsSingle text && !text.any isBreak && text.head? != some ' ' &&
    text.getLast? != some ' ' && !opensAmbiguously text && !endsEarly text

/-- Whether a plain scalar of a text would denote that text. -/
def denotesText (text : String) : Bool :=
  match Resolution.resolve text with
  | .str _ => !Resolution.hasLeadingZero text.toList
  | _ => false

/-- Some spaces. -/
def spaces (count : Nat) : String := String.ofList (List.replicate count ' ')

/-- The lines of a text behind breaks: each that is not empty is indented. -/
def indented (indent : Nat) : (behindBreak : Bool) → List Char → List Char
  | _, [] => []
  | behindBreak, c :: rest =>
    if isBreak c then c :: indented indent true rest
    else if behindBreak then List.replicate indent ' ' ++ c :: indented indent false rest
    else c :: indented indent false rest

/-- A text between single quotes; a quote in it is written twice. -/
def single (indent : Nat) (text : List Char) : String :=
  let doubled := text.flatMap fun c => if c = '\x27' then [c, c] else [c]
  let ending := if text.getLast?.any isBreak then spaces indent else ""
  "'" ++ String.ofList (indented indent false doubled) ++ ending ++ "'"

/-- The letters that a backslash precedes in place of a character. -/
def letters : List (Char × Char) :=
  [ ('\x00', '0'), ('\x07', 'a'), ('\x08', 'b'), ('\t', 't'), ('\n', 'n'), ('\x0b', 'v'),
    ('\x0c', 'f'), ('\r', 'r'), ('\x1b', 'e'), ('"', '"'), ('\\', '\\'), ('\x85', 'N'),
    ('\xa0', '_'), ('\u2028', 'L'), ('\u2029', 'P') ]

/-- A number in as many hexadecimal digits as are given. -/
def hexDigits (count value : Nat) : List Char :=
  let digits := (Nat.toDigits 16 value).map Char.toUpper
  List.replicate (count - digits.length) '0' ++ digits

/-- A character as an escape. -/
def escaped (c : Char) : List Char :=
  match letters.lookup c with
  | some letter => ['\\', letter]
  | none =>
    if c.toNat < 0x100 then '\\' :: 'x' :: hexDigits 2 c.toNat
    else if c.toNat < 0x10000 then '\\' :: 'u' :: hexDigits 4 c.toNat
    else '\\' :: 'U' :: hexDigits 8 c.toNat

/-- A text between double quotes. -/
def double (text : List Char) : String :=
  let body := text.flatMap fun c =>
    if !isPrintable c || isBreak c || c == '"' || c == '\\' then escaped c else [c]
  "\"" ++ String.ofList body ++ "\""

/-- The mark of how the breaks at the end of a block are to be read. -/
def chompingMark (text : List Char) : String :=
  match text.reverse with
  | [] => "-"
  | [last] => if isBreak last then "+" else "-"
  | last :: before :: _ => if !isBreak last then "-" else if isBreak before then "+" else ""

/-- A text as a block with its last line break. -/
def block (indent : Nat) (text : List Char) : String :=
  let depth := if text.head?.any fun c => c == ' ' || isBreak c then "2" else ""
  let ending := if text.getLast?.any isBreak then "" else "\n"
  "|" ++ depth ++ chompingMark text ++ "\n" ++
    String.ofList (indented indent true text) ++ ending

/-- A text on one line: plain if it may be and its value is a text, quoted otherwise. -/
def inline (indent : Nat) (text : String) : String :=
  let chars := text.toList
  if allowsPlain chars && denotesText text then text
  else if allowsSingle chars then single indent chars
  else double chars

/-- A text that ends its line. -/
def scalar (indent : Nat) (text : String) : String :=
  if text.toList.contains '\n' then
    if allowsBlock text.toList then block indent text.toList else double text.toList ++ "\n"
  else inline indent text ++ "\n"

/-- A key. -/
def key (text : String) : String :=
  if text.toList.any isBreak then double text.toList else inline 0 text

/-- A decimal. -/
def decimal : Binary64 → String
  | .infinite negative => if negative then "-.inf" else ".inf"
  | .nan => ".nan"
  | value => value.jsonText

mutual

/-- What follows the dash of an item, or the colon of an entry, of a collection at an
indentation. -/
def tail (indent : Nat) (isItem : Bool) : Json → String
  | .null => " null\n"
  | .bool value => if value then " true\n" else " false\n"
  | .int value => " " ++ toString value ++ "\n"
  | .float value => " " ++ decimal value ++ "\n"
  | .str text => " " ++ scalar (indent + 2) text
  | .arr [] => " []\n"
  | .obj [] => " \x7b\x7d\n"
  | .arr (first :: rest) =>
    if isItem then " -" ++ tail (indent + 2) true first ++ items (indent + 2) rest
    else "\n" ++ spaces indent ++ "-" ++ tail indent true first ++ items indent rest
  | .obj ((name, value) :: rest) =>
    let opening := if isItem then " " else "\n" ++ spaces (indent + 2)
    opening ++ key name ++ ":" ++ tail (indent + 2) false value ++ entries (indent + 2) rest

/-- The items of a list at an indentation. -/
def items (indent : Nat) : List Json → String
  | [] => ""
  | item :: rest => spaces indent ++ "-" ++ tail indent true item ++ items indent rest

/-- The entries of an object at an indentation. -/
def entries (indent : Nat) : List (String × Json) → String
  | [] => ""
  | (name, value) :: rest =>
    spaces indent ++ key name ++ ":" ++ tail indent false value ++ entries indent rest

end

end Writer

/-- The document of a value. -/
def write : Json → String
  | .null => "null\n"
  | .bool value => if value then "true\n" else "false\n"
  | .int value => toString value ++ "\n"
  | .float value => Writer.decimal value ++ "\n"
  | .str text => Writer.scalar 2 text
  | .arr [] => "[]\n"
  | .obj [] => "\x7b\x7d\n"
  | .arr values => Writer.items 0 values
  | .obj fields => Writer.entries 0 fields

/-- The stream of some values, each a document. -/
def writeAll (values : List Json) : String := "---\n".intercalate (values.map write)

end Converge.Yaml
