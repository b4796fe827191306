import Converge.Comparison.Workload
import Converge.Object.Resource

/-!
# Comparisons by kind

Two objects are compared by the comparison that is registered for their kind. Without one they
must be equal. Each facet of an instance brings the comparisons of the kinds that it owns.
-/

namespace Converge

/-- Whether a claim is as wanted. The storage class counts only if it is wanted, since a cluster
has one of its own. -/
def VolumeClaim.meets (found wanted : VolumeClaim) : Bool :=
  let sizeMeets := match found.spec.storageRequest, wanted.spec.storageRequest with
    | some size, some wantedSize => Quantity.equal size wantedSize
    | size, wantedSize => size == wantedSize
  found.metadata.meets wanted.metadata && found.spec.accessModes == wanted.spec.accessModes &&
    sizeMeets && meetsIfWanted found.spec.storageClassName wanted.spec.storageClassName

/-- Whether a service account is as wanted; it has nothing but metadata. -/
def ServiceAccount.meets (found wanted : ServiceAccount) : Bool :=
  found.metadata.meets wanted.metadata

/-- Whether a route is as wanted. The weight counts only if it is wanted. -/
def Route.meets (found wanted : Route) : Bool :=
  found.metadata.meets wanted.metadata && found.spec.host == wanted.spec.host &&
    found.spec.target.kind == wanted.spec.target.kind &&
    found.spec.target.name == wanted.spec.target.name &&
    meetsIfWanted found.spec.target.weight wanted.spec.target.weight &&
    found.spec.port == wanted.spec.port && found.spec.tls == wanted.spec.tls

/-- Whether an ingress is as wanted. -/
def Ingress.meets (found wanted : Ingress) : Bool :=
  found.metadata.meets wanted.metadata && found.spec.rules == wanted.spec.rules &&
    found.spec.tls == wanted.spec.tls

/-- A comparison of an object that is found with one that is wanted. -/
abbrev Comparison := Resource → Resource → Bool

namespace Comparison

/-- Equality of objects. -/
def equality : Comparison := fun found wanted => found == wanted

/-- Whether an object is of a kind and as wanted. -/
def ofKind : Kind → Comparison
  | .deployment, .deployment found, .deployment wanted => found.meets wanted
  | .service, .service found, .service wanted => found.meets wanted
  | .volumeClaim, .volumeClaim found, .volumeClaim wanted => found.meets wanted
  | .serviceAccount, .serviceAccount found, .serviceAccount wanted => found.meets wanted
  | .route, .route found, .route wanted => found.meets wanted
  | .ingress, .ingress found, .ingress wanted => found.meets wanted
  | _, _, _ => false

end Comparison

/-- The kinds that have a comparison of their own. -/
structure Registry where
  lookup? : Kind → Option Comparison

namespace Registry

/-- The registry in which no kind has a comparison of its own. -/
def empty : Registry := ⟨fun _ => none⟩

/-- A registry with one more comparison, in place of one of its kind. -/
def register (registry : Registry) (kind : Kind) (comparison : Comparison) : Registry :=
  ⟨fun other => if other = kind then some comparison else registry.lookup? other⟩

/-- The registry in which some kinds have their comparison. -/
def ofKinds (kinds : List Kind) : Registry :=
  kinds.foldl (fun registry kind => registry.register kind (Comparison.ofKind kind)) empty

/-- Whether a kind has a comparison of its own. -/
def overrides (registry : Registry) (kind : Kind) : Bool := (registry.lookup? kind).isSome

/-- Compares two objects as objects of a kind. -/
def compare (registry : Registry) (kind : Kind) : Comparison :=
  (registry.lookup? kind).getD .equality

end Registry

end Converge
