import Converge.Codec.Basic
import Converge.Json.Passing

/-!
# Reading JSON texts with an outline

`Codec.parse` reads a text as a value of a type. The text is read from its start on along the
outline of the type, so the first thing that is wrong is reported, be it that the text is no JSON
text there or that a value does not have the form that is asked for. The place of such a value lies
behind it, or in front of it if it is a list or an object. Entries that the outline does not name
are passed, unless the record keeps them.
-/

namespace Converge

namespace Schema

open Json

/-- What a codec says of a value. -/
def judgeBy {α : Type} (codec : Codec α) (value : Json) : Except DecodeError Unit :=
  (codec.decode value).map fun _ => ()

/-- What is said of a value that has to be a text without a fault. -/
def judgeText (type : String) (fault? : String → Option DecodeError) :
    Json → Except DecodeError Unit
  | .str found => (fault? found).elim (.ok ()) .error
  | value => Codec.mismatch type value

/-- A value with what follows it, or its refusal with what follows the place. -/
def accept (judged : Except DecodeError Unit) (value : Json) (rest place : List Char) :
    Except (Stop DecodeError) (Json × List Char) :=
  match judged with
  | .ok () => .ok (value, rest)
  | .error error => refuseAt error place

/-- Reads a value that has to satisfy a judge, whom no list and no object satisfies. -/
def readJudged (judge : Json → Except DecodeError Unit) : Reader DecodeError Json := fun source =>
  match skipBlanks source with
  | '[' :: rest => accept (judge (.arr [])) (.arr []) rest ('[' :: rest)
  | '\x7b' :: rest => accept (judge (.obj [])) (.obj []) rest ('\x7b' :: rest)
  | rest => do
    let (value, rest) ← readScalar rest
    accept (judge value) value rest rest

/-- What follows the place of a fault of an entry that is noticed behind some part of it: the place
lies behind the brace if the object ends there. -/
def behindEntry (source : List Char) : List Char :=
  match skipBlanks source with
  | '\x7d' :: rest => rest
  | rest => rest

/-- What follows the place of a list that stands where a record is asked for, behind its
bracket. -/
def behindBracket (source : List Char) : List Char :=
  match skipBlanks source with
  | ']' :: rest => rest
  | ',' :: rest => skipBlanks rest
  | rest => rest

mutual

/-- Reads a value with an outline, with lists and objects up to a depth. -/
def read : Schema → (depth : Nat) → Reader DecodeError Json
  | .any, depth, source | .textOrInt, depth, source | .choice _, depth, source =>
    readSettled depth source
  | .bool, _, source => readJudged (judgeBy .bool) source
  | .text, _, source => readJudged (judgeBy .text) source
  | .written type fault?, _, source => readJudged (judgeText type fault?) source
  | .int type low high, _, source => readJudged (judgeBy (.integer type low high id id)) source
  | .constant expected, _, source => do
    let (value, rest) ← readJudged (judgeBy .text) source
    accept (judgeBy (.constant expected) value) value rest (behindEntry rest)
  | .optional inner, depth, source =>
    match skipBlanks source with
    | 'n' :: rest => readWord .null ['u', 'l', 'l'] rest
    | rest => read inner depth rest
  | .list item, depth, source =>
    match skipBlanks source, depth with
    | '[' :: rest, 0 => stopAt .tooDeep rest
    | '[' :: rest, depth + 1 =>
      (readList (read item depth) rest).map fun (items, rest) => (.arr items, rest)
    | rest, _ => readJudged (judgeBy (.list .json)) rest
  | .dict, depth, source =>
    match skipBlanks source, depth with
    | '\x7b' :: rest, 0 => stopAt .tooDeep rest
    | '\x7b' :: rest, _ + 1 =>
      (readObject (readEntry (readJudged (judgeBy .text))) rest).map fun (entries, rest) =>
        (ofEntries entries, rest)
    | rest, _ => readJudged (judgeBy .dict) rest
  | .record form fields, depth, source =>
    match skipBlanks source, depth with
    | '\x7b' :: rest, 0 => stopAt .tooDeep rest
    | '\x7b' :: rest, depth + 1 => do
      let (entries, rest) ← readObject (readField form fields depth) rest
      return (if form.isOpen then .obj entries else ofEntries entries, rest)
    | '[' :: rest, depth =>
      if form.positional then readSettled depth ('[' :: rest)
      else if form.isOpen then readJudged (Codec.mismatch form.expectation) ('[' :: rest)
      else if depth = 0 then stopAt .tooDeep rest
      else accept (Codec.mismatch form.expectation (.arr [])) (.arr []) rest (behindBracket rest)
    | rest, _ => readJudged (Codec.mismatch form.expectation) rest

/-- Reads an entry of a record, by the outline of the field that has its key if there is one. -/
def readField (form : RecordForm) :
    (fields : List (String × Schema)) → (depth : Nat) → EntryReader DecodeError
  | [], depth, _, _, source => do
    let source ← readColon source
    if form.isOpen then
      let (value, rest) ← readSettled depth source
      return (some value, rest)
    else return (none, ← skipValue source)
  | (name, schema) :: fields, depth, before, key, source =>
    if name = key then
      if !form.repeatable && before.any (·.1 == key) then
        refuseAt (.duplicateField key) (behindEntry source)
      else do
        let (value, rest) ← schema.read depth (← readColon source)
        return (some value, rest)
    else readField form fields depth before key source

end

end Schema

namespace Codec

/-- The value that a whole text writes. -/
def parse {α : Type} (codec : Codec α) (text : String) : Except (Json.TextError DecodeError) α :=
  let read : Except (Json.Stop DecodeError) α := do
    let (value, rest) ← codec.schema.read Json.depthLimit text.toList
    match codec.decode value with
    | .ok value => Json.readEnd rest; return value
    | .error error => Json.refuseAt error rest
  read.mapError (·.locate text.toList)

end Codec

end Converge
