import Converge.Json.Basic
import Converge.Number.Literal
import Converge.Number.Radix

/-!
# What plain scalars denote

A plain scalar denotes null, a truth value, an integer or a decimal if it has the form of one, and
a text otherwise. `resolve` tells which; a writer has to quote every text that it does not give
back.
-/

namespace Converge.Yaml.Resolution

/-- The words for null; nothing at all is another one. -/
def nullWords : List String := ["null", "Null", "NULL", "~"]

/-- Whether a text is a word for null. -/
def isNullWord (text : String) : Bool := nullWords.contains text

/-- Whether a plain scalar denotes null. -/
def isNull (text : String) : Bool := text.isEmpty || isNullWord text

/-- The truth value that a text denotes. -/
def bool? (text : String) : Option Bool :=
  if ["true", "True", "TRUE"].contains text then some true
  else if ["false", "False", "FALSE"].contains text then some false
  else none

/-- A text without a sign at its start. -/
def unsigned : List Char → List Char
  | '+' :: digits => digits
  | '-' :: digits => digits
  | text => text

/-- Whether a text consists of digits that start with a needless zero. -/
def hasLeadingZero (text : List Char) : Bool :=
  match unsigned text with
  | '0' :: digits => !digits.isEmpty && digits.all Char.isDigit
  | _ => false

/-- The magnitude that a text without sign denotes: hexadecimal, octal or binary digits behind a
zero and a letter, or decimal digits without a needless zero. -/
def magnitude? (text : List Char) : Option Nat :=
  match text with
  | '0' :: 'x' :: digits => Radix.number? 16 digits
  | '0' :: 'o' :: digits => Radix.number? 8 digits
  | '0' :: 'b' :: digits => Radix.number? 2 digits
  | digits => if hasLeadingZero digits then none else Radix.number? 10 digits

/-- The integer that a text denotes: a magnitude with a sign or without. -/
def integer? : List Char → Option Int
  | '-' :: text => (magnitude? text).map fun value => -(value : Int)
  | '+' :: text => (magnitude? text).map Int.ofNat
  | text => (magnitude? text).map Int.ofNat

/-- The integer that a text without a minus denotes. -/
def natural? : List Char → Option Int
  | '-' :: _ => none
  | text => integer? text

/-- The decimal that a text denotes: a literal that is finite, or a word behind a point. -/
def decimal? (text : String) : Option Binary64 :=
  if [".inf", ".Inf", ".INF", "+.inf", "+.Inf", "+.INF"].contains text then some (.infinite false)
  else if ["-.inf", "-.Inf", "-.INF"].contains text then some (.infinite true)
  else if [".nan", ".NaN", ".NAN"].contains text then some .nan
  else
    ((Literal.parse? text.toList).map Literal.toBinary64).filter Binary64.isFinite

/-- The least and the greatest integer that are told from decimals: the least one of 128 bits with
a sign, and the greatest one without. -/
def integerBounds : Int × Int :=
  (-0x80000000000000000000000000000000, 0xFFFFFFFFFFFFFFFFFFFFFFFFFFFFFFFF)

/-- The integer that a text denotes, within the bounds. -/
def boundedInteger? (text : List Char) : Option Int :=
  (integer? text).filter fun value => integerBounds.1 ≤ value && value ≤ integerBounds.2

/-- What a plain scalar denotes. -/
def resolve (text : String) : Json :=
  if isNull text then .null
  else match bool? text, boundedInteger? text.toList with
    | some value, _ => .bool value
    | none, some value => .int value
    | none, none =>
      if hasLeadingZero text.toList then .str text
      else match decimal? text with
        | some value => .float value
        | none => .str text

end Converge.Yaml.Resolution
