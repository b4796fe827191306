import Converge.Facet.Basic
import Converge.Trace

/-!
# Passes

A pass asks the cluster for its capabilities and reads objects; these accesses are its events.
An object that is read must have the form of its kind. A failure to read an object that has
another name than its instance is told of the instance.
-/

namespace Converge

/-- How objects are read: the value at a place, none if there is none, or why it cannot be read. -/
abbrev Reader := Key → Except Failure (Option Json)

/-- One question to the cluster. -/
inductive Access where
  | probe
  | read (key : Key)
  deriving DecidableEq

/-- A computation that asks the cluster. -/
abbrev Pass := Trace Access Failure

/-- The places of the objects that a pass read. -/
def Pass.reads {α : Type} (pass : Pass α) : List Key :=
  pass.events.filterMap fun
    | .probe => none
    | .read key => some key

/-- A failure to read an object, told of the instance that the object belongs to. -/
def Failure.attribute (name owner : String) : Failure → Failure
  | .unreadable kind _ message => .unreadable kind owner s!"{name}: {message}"
  | failure => failure

namespace ReadRequest

/-- The object at a place, read as an object of its kind. -/
def fetch (reader : Reader) (key : Key) : Except Failure (Option Resource) :=
  match reader key with
  | .error failure => .error failure
  | .ok none => .ok none
  | .ok (some value) => (Resource.decode key.kind value).map some

/-- The object that is to be read. -/
def answer (reader : Reader) (request : ReadRequest) : Except Failure (Option Resource) :=
  match request.owner with
  | none => fetch reader request.key
  | some owner => (fetch reader request.key).mapError (.attribute request.key.name owner)

/-- The pass that reads objects one after the other and gives those that are found. -/
def passAll (reader : Reader) : List ReadRequest → Pass (List Resource)
  | [] => pure []
  | request :: requests => do
    let found ← Trace.ask (.read request.key) (request.answer reader)
    let rest ← passAll reader requests
    return found.toList ++ rest

end ReadRequest

end Converge
