import Converge.Object.Metadata

/-!
# Service accounts

The identity that the pods of an instance run as.
-/

namespace Converge

/-- A service account. -/
structure ServiceAccount where
  apiVersion : String
  kind : String
  metadata : Metadata
  deriving DecidableEq

namespace ServiceAccount

/-- The version of the interface that has service accounts. -/
def version : String := "v1"

/-- The JSON form of a service account. -/
def codec : Codec ServiceAccount :=
  .record "ServiceAccount"
    (.field (.defaulted "apiVersion" .text version) <|
      .field (.defaulted "kind" .text "ServiceAccount") <|
      .field (.required "metadata" Metadata.codec) .done)
    (fun (version, kind, metadata, ()) => ⟨version, kind, metadata⟩)
    (fun ⟨version, kind, metadata⟩ => (version, kind, metadata, ()))

/-- The service account of some metadata. -/
def of (metadata : Metadata) : ServiceAccount := ⟨version, "ServiceAccount", metadata⟩

end ServiceAccount

end Converge
