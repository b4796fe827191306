import Converge.Json.Basic
import Converge.Number.Shortest
import Converge.Text.Quoted

/-!
# What can be wrong with a JSON value

The causes for which a value does not decode, with their wording. A message names what was found
by its shape only, so it never depends on what a list or an object holds.
-/

namespace Converge

/-- The wording of a shape; scalars are shown. -/
def Json.Shape.text : Json.Shape → String
  | .null => "null"
  | .bool value => s!"boolean `{value}`"
  | .int value => s!"integer `{value}`"
  | .float value => s!"floating point `{value.jsonText}`"
  | .str text => "string " ++ Text.quoted text
  | .arr => "sequence"
  | .obj => "map"

/-- Why a text is no time. -/
inductive TimeError where
  | tooShort
  | tooLong
  | outOfRange
  | impossible
  | invalid
  deriving DecidableEq

/-- The wording of what is wrong with a time. -/
def TimeError.message : TimeError → String
  | tooShort => "premature end of input"
  | tooLong => "trailing input"
  | outOfRange => "input is out of range"
  | impossible => "no possible date and time matching input"
  | invalid => "input contains invalid characters"

/-- Why a value does not decode. -/
inductive DecodeError where
  | wrongType (found : Json.Shape) (expected : String)
  | wrongValue (found : Json.Shape) (expected : String)
  | missingField (field : String)
  | duplicateField (field : String)
  | unknownChoice (found : String) (choices : List String)
  | noAlternative (type : String)
  | tooShort (length : Nat) (record : String) (size : Nat)
  | tooLong (length : Nat)
  | badTime (cause : TimeError)
  deriving DecidableEq

namespace DecodeError

/-- A text between backticks. -/
def ticked (text : String) : String := s!"`{text}`"

/-- The wording of the choices that there are. -/
def choicesText : List String → String
  | [] => "there are no variants"
  | [only] => s!"expected {ticked only}"
  | [first, second] => s!"expected {ticked first} or {ticked second}"
  | choices => "expected one of " ++ ", ".intercalate (choices.map ticked)

/-- The number of elements of a record that is written as a list. -/
def sizeText (size : Nat) : String :=
  if size = 1 then "1 element" else s!"{size} elements"

/-- The wording of an error. -/
def message : DecodeError → String
  | wrongType found expected => s!"invalid type: {found.text}, expected {expected}"
  | wrongValue found expected => s!"invalid value: {found.text}, expected {expected}"
  | missingField field => s!"missing field {ticked field}"
  | duplicateField field => s!"duplicate field {ticked field}"
  | unknownChoice found choices =>
    let head := s!"unknown variant {ticked found}, "
    head ++ choicesText choices
  | noAlternative type => s!"data did not match any variant of untagged enum {type}"
  | tooShort length record size =>
    s!"invalid length {length}, expected {record} with {sizeText size}"
  | tooLong length => s!"invalid length {length}, expected fewer elements in array"
  | badTime cause => cause.message

end DecodeError

end Converge
