import Converge.Codec.DecodeError
import Converge.Dict

/-!
# Codecs

A `Codec` for a type holds its JSON form in both directions, and the `Schema` of that form: what
an outline of a value says about where records, lists and dictionaries stand. This module has the
codecs of scalars, lists, dictionaries, optional values and choices; records follow in
`Converge.Codec.Record`.
-/

namespace Converge

/-- How a record is read: what a message calls it, whether a list of its fields in order stands
for it too, whether a text may repeat one of its fields, and whether it keeps other entries. -/
structure RecordForm where
  expectation : String
  positional : Bool
  repeatable : Bool
  isOpen : Bool
  deriving DecidableEq

/-- The outline of the JSON form of a type. Texts may be written values of a type, which not every
text is, and integers are told what a message calls their type. -/
inductive Schema where
  | any
  | bool
  | text
  | constant (expected : String)
  | written (type : String) (fault? : String → Option DecodeError)
  | int (type : String) (low high : Int)
  | textOrInt
  | choice (names : List String)
  | list (item : Schema)
  | dict
  | optional (inner : Schema)
  | record (form : RecordForm) (fields : List (String × Schema))

/-- The JSON form of a type, in both directions. -/
structure Codec (α : Type) where
  schema : Schema
  encode : α → Json
  decode : Json → Except DecodeError α

namespace Codec

variable {α : Type}

/-- The refusal of a value of another type. -/
def mismatch (expected : String) (found : Json) : Except DecodeError α :=
  .error (.wrongType found.shape expected)

/-- Any value, as it is. -/
def json : Codec Json where
  schema := .any
  encode value := value
  decode value := .ok value

/-- A text. -/
def text : Codec String where
  schema := .text
  encode := .str
  decode
    | .str text => .ok text
    | value => mismatch "a string" value

/-- A truth value. -/
def bool : Codec Bool where
  schema := .bool
  encode := .bool
  decode
    | .bool value => .ok value
    | value => mismatch "a boolean" value

/-- Integers between two bounds, by their values; decimals are refused. -/
def integer (type : String) (low high : Int) (toInt : α → Int) (ofInt : Int → α) : Codec α where
  schema := .int type low high
  encode value := .int (toInt value)
  decode
    | .int value =>
      if low ≤ value ∧ value ≤ high then .ok (ofInt value)
      else .error (.wrongValue (.int value) type)
    | value => mismatch type value

/-- Signed integers of 32 bits. -/
def int32 : Codec Int32 :=
  integer "i32" Int32.minValue.toInt Int32.maxValue.toInt Int32.toInt Int32.ofInt

/-- Signed integers of 64 bits. -/
def int64 : Codec Int64 :=
  integer "i64" Int64.minValue.toInt Int64.maxValue.toInt Int64.toInt Int64.ofInt

/-- Unsigned integers of 32 bits. -/
def uint32 : Codec UInt32 :=
  integer "u32" 0 (UInt32.size - 1) (fun value => value.toNat) (fun value => .ofNat value.toNat)

/-- Unsigned integers of 16 bits. -/
def uint16 : Codec UInt16 :=
  integer "u16" 0 (UInt16.size - 1) (fun value => value.toNat) (fun value => .ofNat value.toNat)

/-- A text that is one of some constants. -/
def constant (expected : String) : Codec Unit where
  schema := .constant expected
  encode _ := .str expected
  decode
    | .str text => if text = expected then .ok () else .error (.wrongValue (.str text) expected)
    | value => mismatch "a string" value

/-- What a result is an error of. -/
def fault? : Except DecodeError α → Option DecodeError
  | .ok _ => none
  | .error error => some error

/-- Values of a type that a text writes. -/
def written (type : String) (toText : α → String) (ofText : String → Except DecodeError α) :
    Codec α where
  schema := .written type fun text => fault? (ofText text)
  encode value := .str (toText value)
  decode
    | .str text => ofText text
    | value => mismatch type value

/-- Lists, item by item; the first item that does not decode is reported. -/
def list (item : Codec α) : Codec (List α) where
  schema := .list item.schema
  encode items := .arr (items.map item.encode)
  decode
    | .arr items => items.mapM item.decode
    | value => mismatch "a sequence" value

/-- Dictionaries of texts; the first entry that does not decode is reported. -/
def dict : Codec Dict where
  schema := .dict
  encode dict := .obj (dict.entries.map fun entry => (entry.1, .str entry.2))
  decode
    | .obj entries => do
      let decoded ← entries.mapM fun entry => do return (entry.1, ← text.decode entry.2)
      return .ofList decoded
    | value => mismatch "a map" value

/-- Optional values; null stands for none. -/
def optional (inner : Codec α) : Codec (Option α) where
  schema := .optional inner.schema
  encode
    | none => .null
    | some value => inner.encode value
  decode
    | .null => .ok none
    | value => (inner.decode value).map some

/-- The value of a name among the choices. -/
def chosen (choices : List (String × α)) (name : String) : Except DecodeError α :=
  match choices.find? fun choice => choice.1 == name with
  | some choice => .ok choice.2
  | none => .error (.unknownChoice name (choices.map (·.1)))

/-- One of some named values: its name, or an object with null under its name alone. -/
def choice [BEq α] (choices : List (String × α)) : Codec α where
  schema := .choice (choices.map (·.1))
  encode value := .str (((choices.find? fun choice => choice.2 == value).map (·.1)).getD "")
  decode
    | .str name => chosen choices name
    | .obj [(name, content)] => do
      let value ← chosen choices name
      if content.isNull then return value else mismatch "unit" content
    | .obj entries => .error (.wrongValue (Json.obj entries).shape "map with a single key")
    | value => mismatch "string or map" value

end Codec

end Converge
