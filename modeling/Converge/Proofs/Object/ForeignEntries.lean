import Converge.Proofs.Codec.ForeignEntries
import Converge.Proofs.Object.RoundTrip

/-!
# What a cluster writes into objects besides is overlooked

A cluster keeps more with an object than is wanted of it: what it assigned, what state the object
is in, who changed it last. Each record of the object model overlooks entries that it has no field
for, from the leaves up to the six kinds, so an object is read alike whatever else stands in it
(`Resource.decode_eq_of_foreign_entries`), and so is the error of a value that is no object of its
kind.
-/

namespace Converge

open Codec

instance : PortReference.codec.OverlooksForeign where
  decode_eq adds := nomatch adds

instance : Metadata.codec.OverlooksForeign := record_overlooksForeign (by simp)

/-- Objects of a kind overlook foreign entries when their specifications do. -/
instance {σ : Type} (kind version : String) (spec : Codec σ) [spec.OverlooksForeign] :
    (Object.codec kind version spec).OverlooksForeign :=
  record_overlooksForeign (by simp)

/-! ## Deployments -/

instance : EnvVar.codec.OverlooksForeign := record_overlooksForeign (by simp)

instance : ContainerPort.codec.OverlooksForeign := record_overlooksForeign (by simp)

instance : ContainerResources.codec.OverlooksForeign := record_overlooksForeign (by simp)

instance : HttpCheck.codec.OverlooksForeign := record_overlooksForeign (by simp)

instance : Probe.codec.OverlooksForeign := record_overlooksForeign (by simp)

instance : VolumeMount.codec.OverlooksForeign := record_overlooksForeign (by simp)

instance : Container.codec.OverlooksForeign := record_overlooksForeign (by simp)

instance : ClaimSource.codec.OverlooksForeign := record_overlooksForeign (by simp)

instance : Volume.codec.OverlooksForeign := record_overlooksForeign (by simp)

instance : SecurityContext.codec.OverlooksForeign := record_overlooksForeign (by simp)

instance : PodSpec.codec.OverlooksForeign := record_overlooksForeign (by simp)

instance : PodMetadata.codec.OverlooksForeign := record_overlooksForeign (by simp)

instance : PodTemplate.codec.OverlooksForeign := record_overlooksForeign (by simp)

instance : LabelSelector.codec.OverlooksForeign := record_overlooksForeign (by simp)

instance : Strategy.codec.OverlooksForeign := record_overlooksForeign (by simp)

instance : DeploymentSpec.codec.OverlooksForeign := record_overlooksForeign (by simp)

instance : Deployment.codec.OverlooksForeign :=
  inferInstanceAs
    (Object.codec "Deployment" Deployment.version DeploymentSpec.codec).OverlooksForeign

/-! ## Services, claims and accounts -/

instance : ServicePort.codec.OverlooksForeign := record_overlooksForeign (by simp)

instance : ServiceSpec.codec.OverlooksForeign := record_overlooksForeign (by simp)

instance : Service.codec.OverlooksForeign :=
  inferInstanceAs
    (Object.codec "Service" Service.version ServiceSpec.codec).OverlooksForeign

instance : ClaimResources.codec.OverlooksForeign := record_overlooksForeign (by simp)

instance : ClaimSpec.codec.OverlooksForeign := record_overlooksForeign (by simp)

instance : VolumeClaim.codec.OverlooksForeign :=
  inferInstanceAs
    (Object.codec "PersistentVolumeClaim" VolumeClaim.version ClaimSpec.codec).OverlooksForeign

instance : ServiceAccount.codec.OverlooksForeign := record_overlooksForeign (by simp)

/-! ## Routes and ingresses -/

instance : RouteTarget.codec.OverlooksForeign := record_overlooksForeign (by simp)

instance : RoutePort.codec.OverlooksForeign := record_overlooksForeign (by simp)

instance : RouteTls.codec.OverlooksForeign := record_overlooksForeign (by simp)

instance : RouteSpec.codec.OverlooksForeign := record_overlooksForeign (by simp)

instance : Route.codec.OverlooksForeign :=
  inferInstanceAs
    (Object.codec "Route" Route.version RouteSpec.codec).OverlooksForeign

instance : BackendPort.codec.OverlooksForeign := record_overlooksForeign (by simp)

instance : ServiceBackend.codec.OverlooksForeign := record_overlooksForeign (by simp)

instance : Backend.codec.OverlooksForeign := record_overlooksForeign (by simp)

instance : IngressPath.codec.OverlooksForeign := record_overlooksForeign (by simp)

instance : RulePaths.codec.OverlooksForeign := record_overlooksForeign (by simp)

instance : IngressRule.codec.OverlooksForeign := record_overlooksForeign (by simp)

instance : IngressTls.codec.OverlooksForeign := record_overlooksForeign (by simp)

instance : IngressSpec.codec.OverlooksForeign := record_overlooksForeign (by simp)

instance : Ingress.codec.OverlooksForeign :=
  inferInstanceAs
    (Object.codec "Ingress" Ingress.version IngressSpec.codec).OverlooksForeign

namespace Resource

private theorem map_decode_eq {α : Type} (codec : Codec α) [codec.OverlooksForeign]
    (wrap : α → Resource) {value value' : Json}
    (changed : Relation.EqvGen codec.schema.AddsForeign value value') :
    (codec.decode value').map wrap = (codec.decode value).map wrap := by
  rw [codec.decode_eq_of_eqvGen changed]

/-- An object is read from a value as it is read from the value without foreign entries, or refused
for the same reason. Entries may be added and taken away in any number and at any depth. -/
theorem decode_eq_of_foreign_entries (kind : Kind) {value value' : Json}
    (changed : Relation.EqvGen (schema kind).AddsForeign value value') :
    decode kind value' = decode kind value := by
  have same : decodeValue kind value' = decodeValue kind value := by
    cases kind with
    | deployment => exact map_decode_eq Deployment.codec deployment changed
    | service => exact map_decode_eq Service.codec service changed
    | volumeClaim => exact map_decode_eq VolumeClaim.codec volumeClaim changed
    | serviceAccount => exact map_decode_eq ServiceAccount.codec serviceAccount changed
    | route => exact map_decode_eq Route.codec route changed
    | ingress => exact map_decode_eq Ingress.codec ingress changed
  rw [decode, decode, same]

/-- A service account without labels. -/
def bareAccount : ServiceAccount := .of ⟨"nexus3", "tools", .empty, .empty⟩

/-- An account that a cluster has numbered and given a token to is read as it was stored. -/
theorem decode_account_with_token :
    decode .serviceAccount
        (.obj
          [ ("apiVersion", .str "v1"), ("kind", .str "ServiceAccount"),
            ("metadata",
              .obj [("name", .str "nexus3"), ("namespace", .str "tools"), ("uid", .str "1234")]),
            ("secrets", .arr [.obj [("name", .str "nexus3-token")]]) ]) =
      .ok (.serviceAccount bareAccount) := by
  let states : List (String × Json) :=
    [("apiVersion", .str "v1"), ("kind", .str "ServiceAccount")]
  let names : List (String × Json) := [("name", .str "nexus3"), ("namespace", .str "tools")]
  let numbered : Json := .obj (names ++ [("uid", .str "1234")])
  have numbers : Metadata.codec.schema.AddsForeign (.obj (names ++ [])) numbered :=
    .entry (.str "1234") (by decide)
  have inside : (schema .serviceAccount).AddsForeign
      (.obj (states ++ [("metadata", .obj (names ++ []))]))
      (.obj (states ++ [("metadata", numbered)])) :=
    .field (.tail _ (.tail _ (.head _))) numbers
  have gives : (schema .serviceAccount).AddsForeign
      (.obj ((states ++ [("metadata", numbered)]) ++ []))
      (.obj ((states ++ [("metadata", numbered)]) ++
        [("secrets", .arr [.obj [("name", .str "nexus3-token")]])])) :=
    .entry _ (by decide)
  exact (decode_eq_of_foreign_entries .serviceAccount (.trans _ _ _ (.rel _ _ inside)
    (.rel _ _ gives))).trans (decode_encode (.serviceAccount bareAccount))

end Resource

end Converge
