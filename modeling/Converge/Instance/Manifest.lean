import Converge.Instance.Basic
import Converge.Yaml.Value

/-!
# Manifests

A manifest is a YAML text that declares an instance. The namespace of the instance is the one that
is asked for, else the one that the manifest names, else the default one.
-/

namespace Converge

namespace Instance

/-- The namespace of an instance of which none is known. -/
def defaultNamespace : String := "default"

/-- An instance in a namespace that is asked for, or else in its own or the default one. -/
def placedIn (space : Option String) (declaration : Instance) : Instance :=
  let own := declaration.metadata.namespaceName.getD defaultNamespace
  { declaration with
    metadata := { declaration.metadata with namespaceName := some (space.getD own) } }

/-- The instance that a manifest declares; none if the text is no such manifest. -/
def ofManifest? (space : Option String) (manifest : String) : Option Instance :=
  (Yaml.decode? codec manifest).map (placedIn space)

end Instance

end Converge
