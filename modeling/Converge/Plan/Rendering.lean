import Converge.Plan.Basic
import Converge.Yaml.Writer

/-!
# Rendering

What an instance amounts to on a cluster of given capabilities on which nothing exists yet: its
settings and all objects that it requires, as documents of one YAML stream.
-/

namespace Converge

/-- The reader of a cluster without objects. -/
def Reader.empty : Reader := fun _ => .ok none

/-- The documents of a plan: the settings, unless only objects are asked for, and the objects that
are required. -/
def Plan.documents (plan : Plan) (objectsOnly : Bool) : List Json :=
  let objects := plan.required.toList.map Resource.encode
  if objectsOnly then objects else plan.settings.encode :: objects

/-- The stream of an instance on a cluster of given capabilities. -/
def Instance.render (capabilities : Capabilities) (objectsOnly : Bool) (declaration : Instance) :
    Except Failure String :=
  (declaration.plan Reader.empty (.ok capabilities)).result.map fun plan =>
    Yaml.writeAll (plan.documents objectsOnly)

end Converge
