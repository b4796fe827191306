import Converge.Codec.Basic
import Converge.Yaml.Document
import Converge.Yaml.Resolution

/-!
# Values of documents

`Node.value?` reads a document as a JSON value with a given outline. The outline decides what a
scalar is read as: a text takes any scalar as it is written, an integer or a truth value only a
plain one of that form. Where nothing is written, a record, a list or a dictionary is empty.
Entries that the outline does not name are passed without being read.

References are followed when they are read. Their number is bounded by the size of the document,
and so is the depth to which collections nest, so that a document cannot blow up.
-/

namespace Converge.Yaml

/-- A reading of values, which counts the references that may still be followed. -/
abbrev Following := StateT Nat Option

namespace Node

/-- The tag of a scalar of a type that all documents know. -/
def commonTag (type : String) : String := "tag:yaml.org,2002:" ++ type

/-- The name that a tag of a document's own gives to a choice. -/
def choiceName? (tag : Option String) : Option String :=
  match tag.map String.toList with
  | some ['!'] => some "!"
  | some ('!' :: name) => some (String.ofList name)
  | _ => none

/-- The depth to which collections may nest. -/
def depthLimit : Nat := 128

/-- How many references may be followed for each mark of a document. -/
def referenceLimit : Nat := 100

section Scalars

variable (properties : Properties) (style : ScalarStyle) (text : String)

/-- Whether a scalar may denote a value of a type: it is plain, or a block that says so. -/
def mayDenote (type : String) : Bool :=
  style == .plain || (style == .literal && properties.tag == some (commonTag type))

/-- Whether nothing is written for a scalar. -/
def isOmission : Bool := style == .plain && text.isEmpty

/-- The value that a resolved scalar has as JSON: integers of more than 64 bits have none. -/
def jsonOf? : Json → Option Json
  | .int value =>
    if Int64.minValue.toInt ≤ value ∧ value < UInt64.size then some (.int value) else none
  | value => some value

/-- The value of a scalar of which no type is known. -/
def scalarValue? : Option Json :=
  if (choiceName? properties.tag).isSome then none
  else match properties.tag with
    | none => jsonOf? (if style = .plain then Resolution.resolve text else .str text)
    | some tag =>
      if tag = commonTag "bool" then (Resolution.bool? text).map .bool
      else if tag = commonTag "int" then
        ((Resolution.boundedInteger? text.toList).map .int).bind jsonOf?
      else if tag = commonTag "float" then ((Resolution.decimal? text).map .float).bind jsonOf?
      else if tag = commonTag "null" then
        if Resolution.isNullWord text then some .null else none
      else some (.str text)

/-- Whether a scalar stands for the absence of an optional value; none if it says that it does,
but is another one. -/
def isAbsence? : Option Bool :=
  if style != .plain then some false
  else match properties.tag with
    | none => some (Resolution.isNull text)
    | some tag =>
      if tag = commonTag "null" then if Resolution.isNullWord text then some true else none
      else some false

/-- The name of the choice that a scalar makes: its tag if that is one, or its text. -/
def chosenName? : Option String :=
  match choiceName? properties.tag with
  | some name => if style = .plain && Resolution.isNull text then some name else none
  | none => some text

end Scalars

variable (target? : Nat → Option Node)

/-- A node that is no reference: the node itself, or what it refers to. -/
def follow (node : Node) : Following Node := do
  match node with
  | .reference number =>
    let left ← get
    if left = 0 then failure
    set (left - 1)
    match target? number with
    | some node => return node
    | none => failure
  | node => return node

/-- The text of a scalar. -/
def readText (node : Node) : Following String := do
  match ← follow target? node with
  | .scalar _ _ text => return text
  | _ => failure

/-- The value of a node of which no type is known, with collections up to a depth. -/
def readAny : (depth : Nat) → Node → Following Json
  | depth, node => do
    match ← follow target? node, depth with
    | .scalar properties style text, _ =>
      match scalarValue? properties style text with
      | some value => return value
      | none => failure
    | .sequence properties items, depth + 1 =>
      if (choiceName? properties.tag).isSome then failure
      return .arr (← items.mapM (readAny depth))
    | .mapping properties entries, depth + 1 =>
      if (choiceName? properties.tag).isSome then failure
      let values ← entries.mapM fun entry => do
        return (← readText target? entry.1, ← readAny depth entry.2)
      return .ofEntries values
    | _, _ => failure

/-- The entries of a mapping, or none at all where nothing is written. -/
def entries? : Node → Option (List (Node × Node))
  | .mapping _ entries => some entries
  | .scalar _ style text => if isOmission style text then some [] else none
  | _ => none

/-- The items of a sequence, or none at all where nothing is written. -/
def items? : Node → Option (List Node)
  | .sequence _ items => some items
  | .scalar _ style text => if isOmission style text then some [] else none
  | _ => none

/-- The entries of a mapping with the texts of their keys. -/
def readKeys (entries : List (Node × Node)) : Following (List (String × Node)) :=
  entries.mapM fun entry => do return (← readText target? entry.1, entry.2)

/-- The entries of a dictionary. -/
def readDict (entries : List (Node × Node)) : Following Json := do
  let texts ← entries.mapM fun entry => do
    return (← readText target? entry.1, Json.str (← readText target? entry.2))
  return .ofEntries texts

mutual

/-- The value of a node with an outline, with collections up to a depth. -/
def read : Schema → (depth : Nat) → Node → Following Json
  | .any, depth, node => readAny target? (depth - 1) node
  | .textOrInt, depth, node => readAny target? depth node
  | .text, _, node | .constant _, _, node | .written .., _, node => do
    return .str (← readText target? node)
  | .bool, _, node => do
    match ← follow target? node with
    | .scalar properties style text =>
      match mayDenote properties style "bool", Resolution.bool? text with
      | true, some value => return .bool value
      | _, _ => failure
    | _ => failure
  | .int _ low _, _, node => do
    match ← follow target? node with
    | .scalar properties style text =>
      let value :=
        if 0 ≤ low then Resolution.natural? text.toList else Resolution.integer? text.toList
      match mayDenote properties style "int", value with
      | true, some value => return .int value
      | _, _ => failure
    | _ => failure
  | .choice _, _, node => do
    match ← follow target? node with
    | .scalar properties style text =>
      match chosenName? properties style text with
      | some name => return .str name
      | none => failure
    | _ => failure
  | .optional inner, depth, node => do
    let node ← follow target? node
    match node with
    | .scalar properties style text =>
      match isAbsence? properties style text with
      | some true => return .null
      | some false => read inner depth node
      | none => failure
    | node => read inner depth node
  | .list item, depth, node => do
    match items? (← follow target? node), depth with
    | some items, depth + 1 => return .arr (← items.mapM fun node => read item depth node)
    | _, _ => failure
  | .dict, depth, node => do
    match entries? (← follow target? node), depth with
    | some entries, _ + 1 => readDict target? entries
    | _, _ => failure
  | .record form fields, depth, node => do
    match entries? (← follow target? node), depth with
    | some entries, depth + 1 =>
      let entries ← readKeys target? entries
      return .obj (← readFields form fields depth entries)
    | _, _ => failure

/-- The fields of a record among the entries of a mapping; the last entry of a field counts. -/
def readFields (form : RecordForm) : List (String × Schema) → (depth : Nat) →
    List (String × Node) → Following (List (String × Json))
  | [], _, _ => return []
  | (key, schema) :: fields, depth, entries => do
    let found := entries.filter fun entry => entry.1 == key
    if !form.repeatable && 1 < found.length then failure
    let values ← found.mapM fun entry => read schema depth entry.2
    let others ← readFields form fields depth entries
    return (values.getLast?.map fun value => (key, value)).toList ++ others

end

/-- The value of a whole document with an outline. -/
def value? (schema : Schema) (root : Node) : Option Json :=
  ((read root.target? schema depthLimit root).run (referenceLimit * root.size)).map (·.1)

end Node

/-- A text that is one document, read by a codec. -/
def decode? {α : Type} (codec : Codec α) (text : String) : Option α := do
  let node ← Node.ofText? text
  let value ← node.value? codec.schema
  (codec.decode value).toOption

end Converge.Yaml
