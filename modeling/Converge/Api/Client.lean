import Converge.Api.Address
import Converge.Api.Response
import Converge.Plan.Pass
import Converge.Object.ServerMetadata

/-!
# Reading objects from a cluster

A `Transport` answers requests by their addresses. `Client.read` asks for one object: an object
that is not there is no error, and whatever else goes wrong is. An object is read as it is, except
for its metadata, which is read as metadata, and for the names of its kind, which count only
together.
-/

namespace Converge

/-- How requests are answered, by their addresses. -/
abbrev Transport := String → Response

/-- A computation that sends requests; the addresses are its events. -/
abbrev Exchange := Trace String ApiError

namespace Client

/-- Whether a value is a text. -/
def isText : Json → Bool
  | .str _ => true
  | _ => false

/-- The keys for the version and the kind of an object. -/
def typeKeys : List String := ["apiVersion", "kind"]

/-- The entries for the version and the kind of an object, and all other entries. The former are
taken out one after the other, beside those that were taken before. They count only if they are
both there, once, as texts; the first that is no text or is there again ends the search. -/
def typeEntries : (taken : List (String × Json)) → List (String × Json) →
    List (String × Json) × List (String × Json)
  | taken, [] => (if typeKeys.all (Json.lookup? taken · |>.isSome) then taken else [], [])
  | taken, (key, value) :: entries =>
    if !typeKeys.contains key then
      let (types, others) := typeEntries taken entries
      (types, (key, value) :: others)
    else if isText value && (Json.lookup? taken key).isNone then
      typeEntries ((key, value) :: taken) entries
    else ([], entries)

/-- How objects of any kind are read. -/
def objectForm : RecordForm := ⟨"struct DynamicObject", false, false, true⟩

/-- Objects of any kind, read for what they hold. -/
def objectCodec : Codec Json where
  schema := .record objectForm [("metadata", ServerMetadata.codec.schema)]
  encode value := value
  decode
    | .obj entries => do
      let (types, others) := typeEntries [] entries
      let metadata ← match Json.lookup? others "metadata" with
        | some value => ServerMetadata.codec.decode value
        | none => .ok .blank
      let data := others.filter fun entry => entry.1 != "metadata"
      return .ofEntries (types ++ ("metadata", ServerMetadata.codec.encode metadata) :: data)
    | value => Codec.mismatch objectForm.expectation value

/-- Asks for one object. -/
def get (transport : Transport) (key : Key) : Exchange Json :=
  if key.name.isEmpty then .of (.error .emptyName)
  else
    match Address.sent? (Address.object key.kind.resourceType key.namespaceName key.name) with
    | none => .of (.error .invalidAddress)
    | some address => .ask address ((transport address).decode objectCodec)

/-- Whether an error says that there is no such object. -/
def isAbsence : ApiError → Bool
  | .refused status => status.code == 404
  | _ => false

/-- Asks for one object, which may not be there. -/
def read (transport : Transport) : Reader := fun key =>
  match (get transport key).result with
  | .ok value => .ok (some value)
  | .error error =>
    if isAbsence error then .ok none
    else .error (.unreadable key.kind.name key.name error.message)

end Client

end Converge
