import Converge.Codec.Record

/-!
# Metadata of objects

Name, namespace, labels and annotations: what this library sets and compares of an object's
metadata. Everything that belongs to an instance carries the instance's labels, and the pods of an
instance are found by the labels of its selector, which are among them.
-/

namespace Converge

/-- The metadata of an object. -/
structure Metadata where
  name : String
  namespaceName : String
  labels : Dict
  annotations : Dict
  deriving DecidableEq

namespace Metadata

/-- The JSON form of metadata. -/
def codec : Codec Metadata :=
  .record "ObjectMeta"
    (.field (.required "name" .text) <|
      .field (.defaulted "namespace" .text "") <|
      .field (.entries "labels") <|
      .field (.entries "annotations") .done)
    (fun (name, space, labels, annotations, ()) => ⟨name, space, labels, annotations⟩)
    (fun ⟨name, space, labels, annotations⟩ => (name, space, labels, annotations, ()))

/-- The labels by which the pods of an instance are found. -/
def selectorLabels (owner : String) : Dict := Dict.empty.insert "app" owner

/-- The labels on every object of an instance. -/
def instanceLabels (owner : String) : Dict :=
  ((selectorLabels owner).insert "app.kubernetes.io/name" owner).insert
    "app.kubernetes.io/managed-by" "nexus-operator"

/-- The metadata of an object with its own name that belongs to an instance. -/
def ownedBy (owner name space : String) : Metadata :=
  ⟨name, space, instanceLabels owner, .empty⟩

/-- The metadata of an object that bears the name of its instance. -/
def ofInstance (name space : String) : Metadata := ownedBy name name space

/-- Metadata with one more label. -/
def addLabel (metadata : Metadata) (key value : String) : Metadata :=
  { metadata with labels := metadata.labels.insert key value }

/-- Metadata with one more annotation. -/
def annotate (metadata : Metadata) (key value : String) : Metadata :=
  { metadata with annotations := metadata.annotations.insert key value }

end Metadata

end Converge
