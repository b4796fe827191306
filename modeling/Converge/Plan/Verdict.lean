import Converge.Comparison.Registry
import Converge.Object.ResourceSet

/-!
# Verdicts

What is to be done with each object, wanted or found: an object that is wanted and not found is
created, one that is found otherwise than wanted is updated, and one that is no longer wanted is
deleted. `Registry.verdicts` goes through the kinds in planning order.
-/

namespace Converge

/-- What is to be done with an object. -/
inductive Action where
  | create
  | update
  | keep
  | delete
  deriving DecidableEq

namespace Action

/-- The name of an action. -/
def name : Action → String
  | create => "Create"
  | update => "Update"
  | keep => "NoOp"
  | delete => "Delete"

/-- The word for an action in a table. -/
def word : Action → String
  | create => "create"
  | update => "update"
  | keep => "no-op"
  | delete => "delete"

/-- All actions. -/
def all : List Action := [create, update, keep, delete]

/-- The action of a name. -/
def ofName? (name : String) : Option Action := all.find? fun action => action.name == name

end Action

/-- What is to be done with the object of a kind and a name. -/
structure Verdict where
  kind : Kind
  name : String
  action : Action
  deriving DecidableEq

namespace Registry

/-- What is to be done with an object that is wanted. -/
def actionFor (registry : Registry) (deployed : ResourceSet) (kind : Kind) (wanted : Resource) :
    Action :=
  match deployed.find? kind wanted.name with
  | some found => if registry.compare kind found wanted then .keep else .update
  | none => .create

/-- The verdicts on the objects of a kind. -/
def verdictsOfKind (registry : Registry) (required deployed : ResourceSet) (kind : Kind) :
    List Verdict :=
  (required.ofKind kind).map
      (fun wanted => ⟨kind, wanted.name, registry.actionFor deployed kind wanted⟩) ++
    ((deployed.ofKind kind).filter fun found => (required.find? kind found.name).isNone).map
      fun found => ⟨kind, found.name, .delete⟩

/-- The verdicts on all objects. -/
def verdicts (registry : Registry) (required deployed : ResourceSet) : List Verdict :=
  Kind.planning.flatMap (registry.verdictsOfKind required deployed)

end Registry

end Converge
