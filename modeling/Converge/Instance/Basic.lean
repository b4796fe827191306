import Converge.Instance.Spec
import Converge.Object.ServerMetadata

/-!
# Instances

An instance is an object of the cluster that a user declares: metadata and the specification. It
is written with the version and the kind of such objects, which are not looked at when it is read.
-/

namespace Converge

/-- A declared instance. -/
structure Instance where
  metadata : ServerMetadata
  spec : InstanceSpec

namespace Instance

/-- The fields of an instance that are read. -/
def declared : Codec Instance :=
  .record "Nexus"
    (.field (.required "metadata" ServerMetadata.codec) <|
      .field (.required "spec" InstanceSpec.codec) .done)
    (fun (metadata, spec, ()) => ⟨metadata, spec⟩) (fun ⟨metadata, spec⟩ => (metadata, spec, ()))

/-- The JSON form of an instance. -/
def codec : Codec Instance where
  schema := declared.schema
  encode declaration :=
    .obj
      [ ("apiVersion", .str "apps.m88i.io/v1alpha1"), ("kind", .str "Nexus"),
        ("metadata", ServerMetadata.codec.encode declaration.metadata),
        ("spec", InstanceSpec.codec.encode declaration.spec) ]
  decode := declared.decode

/-- An instance of a name, a namespace and a specification. -/
def of (name space : Option String) (spec : InstanceSpec) : Instance :=
  ⟨{ ServerMetadata.blank with name, namespaceName := space }, spec⟩

end Instance

end Converge
