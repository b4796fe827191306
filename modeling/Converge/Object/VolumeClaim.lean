import Converge.Object.Basic

/-!
# Claims for volumes

A claim asks for storage of a size, in some access modes and of some storage class.
-/

namespace Converge

/-- The storage that a claim requests, under the name of the resource. -/
structure ClaimResources where
  requests : Dict
  deriving DecidableEq

/-- The JSON form of the storage that a claim requests. -/
def ClaimResources.codec : Codec ClaimResources :=
  .record "PvcResources" (.field (.defaulted "requests" .dict .empty) .done)
    (fun (requests, ()) => ⟨requests⟩) (fun ⟨requests⟩ => (requests, ()))

/-- What a claim asks for. -/
structure ClaimSpec where
  accessModes : List String
  resources : ClaimResources
  storageClassName : Option String
  deriving DecidableEq

namespace ClaimSpec

/-- The mode of a volume that one node reads and writes. -/
def readWriteOnce : String := "ReadWriteOnce"

/-- The mode of a volume that many nodes read and write. -/
def readWriteMany : String := "ReadWriteMany"

/-- The JSON form of what a claim asks for. -/
def codec : Codec ClaimSpec :=
  .record "PvcSpec"
    (.field (.defaulted "accessModes" (.list .text) []) <|
      .field (.defaulted "resources" ClaimResources.codec ⟨.empty⟩) <|
      .field (.optional "storageClassName" .text) .done)
    (fun (modes, resources, storage, ()) => ⟨modes, resources, storage⟩)
    (fun ⟨modes, resources, storage⟩ => (modes, resources, storage, ()))

/-- The size that is requested. -/
def storageRequest (spec : ClaimSpec) : Option String := spec.resources.requests.get? "storage"

end ClaimSpec

/-- A claim for a volume. -/
abbrev VolumeClaim := Object ClaimSpec

namespace VolumeClaim

/-- The version of the interface that has claims. -/
def version : String := "v1"

/-- The JSON form of a claim. -/
def codec : Codec VolumeClaim := Object.codec "PersistentVolumeClaim" version ClaimSpec.codec

/-- The claim of a specification. -/
def of (metadata : Metadata) (spec : ClaimSpec) : VolumeClaim :=
  ⟨version, "PersistentVolumeClaim", metadata, spec⟩

end VolumeClaim

end Converge
