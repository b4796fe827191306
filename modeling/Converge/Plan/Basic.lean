import Converge.Instance.Basic
import Converge.Instance.Validation
import Converge.Plan.Pass
import Converge.Plan.Verdict

/-!
# Plans

`Instance.plan` is one pass over an instance: the instance must have a name and a namespace and
its specification must be valid; then the cluster is asked once for its capabilities, the settings
are made, the facets are checked to share no kind and say what they want, and the objects of the
facets are read. The pass either fails or gives a whole plan. Carrying out the plan is left to
others.
-/

namespace Converge

/-- The outcome of a pass over an instance. -/
structure Plan where
  owner : String
  namespaceName : String
  capabilities : Capabilities
  settings : Settings
  required : ResourceSet
  deployed : ResourceSet
  registry : Registry

/-- What is to be done with every object that is wanted or found. -/
def Plan.verdicts (plan : Plan) : List Verdict :=
  plan.registry.verdicts plan.required plan.deployed

namespace Settings

/-- All objects that are wanted, facet by facet, or the first reason why they cannot be had. -/
def required (settings : Settings) (capabilities : Capabilities) :
    Except Failure (List Resource) := do
  let objects ← Facet.all.mapM (Facet.required settings capabilities)
  return objects.flatten

/-- All objects that are to be read, facet by facet. -/
def reads (settings : Settings) (capabilities : Capabilities) : List ReadRequest :=
  Facet.all.flatMap (Facet.reads settings capabilities)

end Settings

namespace Instance

/-- The name and the namespace of an instance, neither of which may be empty. -/
def identity (declaration : Instance) : Except Failure (String × String) := do
  match Settings.nonEmpty declaration.metadata.name with
  | none => .error (.invalid Failure.unknown "Nexus resource has no name" none)
  | some name =>
    match Settings.nonEmpty declaration.metadata.namespaceName with
    | none => .error (.invalid name "Nexus resource has no namespace" none)
    | some space => .ok (name, space)

/-- A pass over an instance. -/
def plan (reader : Reader) (probe : Except Failure Capabilities) (declaration : Instance) :
    Pass Plan := do
  let (owner, space) ← Trace.of declaration.identity
  Trace.of (declaration.spec.validate owner)
  let capabilities ← Trace.ask .probe probe
  let settings := Settings.normalize owner space declaration.spec capabilities
  Trace.of (Facet.checkOwnership Facet.all)
  let required ← Trace.of (settings.required capabilities)
  let deployed ← ReadRequest.passAll reader (settings.reads capabilities)
  return {
    owner
    namespaceName := space
    capabilities
    settings
    required := ResourceSet.empty.extend required
    deployed := ResourceSet.empty.extend deployed
    registry := .ofKinds Facet.ownedKinds }

end Instance

end Converge
