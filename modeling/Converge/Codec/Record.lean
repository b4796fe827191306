import Converge.Codec.Basic

/-!
# Codecs of records

A record is described by its `Fields`, one after the other: the key of each field, the codec of
its value, what it is when it is absent, and when it is left out in writing. `Codec.record` makes
a codec of such a description.

An object is read field by field through its keys, so keys that name no field are never looked at.
Of several things that are wrong, a value that does not decode goes before a field that is absent;
of such values the one with the least key is reported, of absent fields the first one declared.
A list stands for a record too, if its form allows it: its elements are the fields in their order,
and fields with a value for their absence may be lacking at its end.
-/

namespace Converge

/-- One field of a record: its key, its codec, what it is when it is absent (nothing if it is
required), and when it is left out in writing. -/
structure Field (α : Type) where
  key : String
  codec : Codec α
  absent : Option α
  isOmitted : α → Bool

namespace Field

variable {α : Type}

/-- A field that must be there. -/
def required (key : String) (codec : Codec α) : Field α := ⟨key, codec, none, fun _ => false⟩

/-- A field that is always written and has a value for its absence. -/
def defaulted (key : String) (codec : Codec α) (absent : α) : Field α :=
  ⟨key, codec, some absent, fun _ => false⟩

/-- An optional field; it is left out when there is no value. -/
def optional (key : String) (codec : Codec α) : Field (Option α) :=
  ⟨key, codec.optional, some none, Option.isNone⟩

/-- A field that is always written and for which both null and absence stand for a value. -/
def orElse (key : String) (codec : Codec α) (absent : α) : Field α where
  key := key
  codec :=
    { schema := .optional codec.schema
      encode := codec.encode
      decode := fun value => if value.isNull then .ok absent else codec.decode value }
  absent := some absent
  isOmitted _ := false

/-- A list that is left out when it is empty. -/
def items (key : String) (codec : Codec α) : Field (List α) :=
  ⟨key, codec.list, some [], List.isEmpty⟩

/-- A dictionary that is left out when it is empty. -/
def entries (key : String) : Field Dict := ⟨key, .dict, some .empty, Dict.isEmpty⟩

end Field

/-- The fields of a record in the order of their declaration; the record holds their values as
nested pairs. -/
inductive Fields : Type → Type 1 where
  | done : Fields Unit
  | field {α β : Type} (first : Field α) (rest : Fields β) : Fields (α × β)

/-- What keeps an object from being read as a record. -/
inductive Obstacle where
  | fault (key : String) (error : DecodeError)
  | absent (key : String)
  deriving DecidableEq

namespace Obstacle

/-- Which of two obstacles is reported: a fault before an absence, of faults the one with the
lesser key, of absences the first. -/
def first : Obstacle → Obstacle → Obstacle
  | fault key error, fault other second =>
    if other < key then fault other second else fault key error
  | fault key error, absent _ => fault key error
  | absent _, fault other second => fault other second
  | absent key, absent _ => absent key

/-- The error that an obstacle is reported as. -/
def toError : Obstacle → DecodeError
  | fault _ error => error
  | absent key => .missingField key

end Obstacle

namespace Fields

variable {α β : Type}

/-- The keys and outlines of the fields. -/
def schema : {α : Type} → Fields α → List (String × Schema)
  | _, done => []
  | _, field first rest => (first.key, first.codec.schema) :: rest.schema

/-- The number of fields. -/
def count : {α : Type} → Fields α → Nat
  | _, done => 0
  | _, field _ rest => rest.count + 1

/-- The entries that are written for the values of the fields. -/
def encode : {α : Type} → Fields α → α → List (String × Json)
  | _, done, () => []
  | _, field first rest, (value, values) =>
    if first.isOmitted value then rest.encode values
    else (first.key, first.codec.encode value) :: rest.encode values

/-- The value of one field in an object. -/
def readField (field : Field α) (entries : List (String × Json)) : Except Obstacle α :=
  match Json.lookup? entries field.key with
  | some value => (field.codec.decode value).mapError (.fault field.key)
  | none =>
    match field.absent with
    | some value => .ok value
    | none => .error (.absent field.key)

/-- Two readings, both of which have to succeed. -/
def both : Except Obstacle α → Except Obstacle β → Except Obstacle (α × β)
  | .ok value, .ok values => .ok (value, values)
  | .error obstacle, .ok _ => .error obstacle
  | .ok _, .error obstacle => .error obstacle
  | .error first, .error second => .error (first.first second)

/-- The values of the fields in an object. -/
def readObject : {α : Type} → Fields α → List (String × Json) → Except Obstacle α
  | _, done, _ => .ok ()
  | _, field first rest, entries => both (readField first entries) (rest.readObject entries)

/-- The values of the fields in a list, whose first element is the one of the given index, and
what is left of the list; the index of the first field that is lacking if there is one. -/
def readList : {α : Type} → Fields α → (index : Nat) → List Json →
    Except (Nat ⊕ DecodeError) (α × List Json)
  | _, done, _, items => .ok ((), items)
  | _, field first rest, index, item :: items => do
    let value ← (first.codec.decode item).mapError .inr
    let (values, left) ← rest.readList (index + 1) items
    return ((value, values), left)
  | _, field first rest, index, [] => do
    match first.absent with
    | some value =>
      let (values, left) ← rest.readList (index + 1) []
      return ((value, values), left)
    | none => .error (.inl index)

/-- The values of the fields in a list, all of which must be used up. -/
def readWhole (fields : Fields α) (record : String) (items : List Json) :
    Except DecodeError α :=
  match fields.readList 0 items with
  | .ok (value, []) => .ok value
  | .ok (_, _ :: _) => .error (.tooLong items.length)
  | .error (.inl index) => .error (.tooShort index record fields.count)
  | .error (.inr error) => .error error

end Fields

namespace Codec

variable {α β : Type}

/-- The codec of a record in a form: its fields, how it is made of their values, and its parts. -/
def recordIn (form : RecordForm) (fields : Fields α) (make : α → β) (parts : β → α) : Codec β where
  schema := .record form fields.schema
  encode value := .obj (fields.encode (parts value))
  decode
    | .obj entries => ((fields.readObject entries).mapError Obstacle.toError).map make
    | .arr items =>
      if form.positional then (fields.readWhole form.expectation items).map make
      else mismatch form.expectation (.arr items)
    | value => mismatch form.expectation value

/-- The codec of a record whose type a message names. A list stands for the record too, and a
text must not repeat a field. -/
def record (type : String) (fields : Fields α) (make : α → β) (parts : β → α) : Codec β :=
  recordIn ⟨s!"struct {type}", true, false, false⟩ fields make parts

/-- The codec of a record that is read from objects only and takes the last of repeated fields. -/
def lenientRecord (type : String) (fields : Fields α) (make : α → β) (parts : β → α) : Codec β :=
  recordIn ⟨type, false, true, false⟩ fields make parts

end Codec

end Converge
