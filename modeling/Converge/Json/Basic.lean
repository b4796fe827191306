import Converge.Number.Binary64

/-!
# JSON values

A JSON value as a tree. Integers and decimals are kept apart, because a reader of integers refuses
every decimal, also one without a fraction. The entries of an object stand in a list, in the order
in which they were written; `lookup?` takes the first entry of a key. `Shape` is what an error
message tells of a value: its sort, and the value itself if it is a scalar.
-/

namespace Converge

/-- A JSON value. -/
inductive Json where
  | null
  | bool (value : Bool)
  | int (value : Int)
  | float (value : Binary64)
  | str (text : String)
  | arr (items : List Json)
  | obj (entries : List (String × Json))
  deriving Inhabited

namespace Json

/-- The value of the first entry of a key. -/
def lookup? (entries : List (String × Json)) (key : String) : Option Json :=
  (entries.find? fun entry => entry.1 == key).map (·.2)

/-- The value that an object has under a key; none if the value is no object. -/
def get? (value : Json) (key : String) : Option Json :=
  match value with
  | .obj entries => lookup? entries key
  | _ => none

/-- Whether a value is the null value. -/
def isNull : Json → Bool
  | .null => true
  | _ => false

/-- Entries in ascending order of their keys with one more entry, in place of one with its key. -/
def insertEntry (key : String) (value : Json) :
    List (String × Json) → List (String × Json)
  | [] => [(key, value)]
  | (other, old) :: rest =>
    if key < other then (key, value) :: (other, old) :: rest
    else if key = other then (key, value) :: rest
    else (other, old) :: insertEntry key value rest

/-- An object of some entries in ascending order of their keys, the last entry of a key winning. -/
def ofEntries (entries : List (String × Json)) : Json :=
  .obj (entries.foldl (fun sorted entry => insertEntry entry.1 entry.2 sorted) [])

/-- What an error message tells of a value. -/
inductive Shape where
  | null
  | bool (value : Bool)
  | int (value : Int)
  | float (value : Binary64)
  | str (text : String)
  | arr
  | obj
  deriving DecidableEq, Repr

/-- The shape of a value: all of a scalar, of a list and an object only what it is. -/
def shape : Json → Shape
  | .null => .null
  | .bool value => .bool value
  | .int value => .int value
  | .float value => .float value
  | .str text => .str text
  | .arr _ => .arr
  | .obj _ => .obj

end Json

end Converge
