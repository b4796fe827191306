import Converge.Object.Metadata

/-!
# Objects

An object states the version of the interface and the kind that it is of, and has metadata and a
specification. Both statements may be lacking where an object is read, because the place that it
is read from says them too; they are kept as they are and never looked at.
-/

namespace Converge

/-- An object with a specification. -/
structure Object (σ : Type) where
  apiVersion : String
  kind : String
  metadata : Metadata
  spec : σ
  deriving DecidableEq

namespace Object

variable {σ : Type}

/-- The JSON form of the objects of a kind. -/
def codec (kind version : String) (spec : Codec σ) : Codec (Object σ) :=
  .record kind
    (.field (.defaulted "apiVersion" .text version) <|
      .field (.defaulted "kind" .text kind) <|
      .field (.required "metadata" Metadata.codec) <|
      .field (.required "spec" spec) .done)
    (fun (version, kind, metadata, spec, ()) => ⟨version, kind, metadata, spec⟩)
    (fun ⟨version, kind, metadata, spec⟩ => (version, kind, metadata, spec, ()))

end Object

end Converge
