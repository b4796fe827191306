import Converge.Object.Resource
import Converge.Proofs.Codec.RoundTrip

/-!
# Objects survive being stored

Each record of the object model is lawful because its fields are, from the leaves up to the six
kinds. `Resource.decode_encode` sums this up: an object that is stored in its JSON form is read as
the very same object.
-/

namespace Converge

open Codec

instance : PortReference.codec.Lawful where
  decode_encode
    | .number value => by
      have bounds := And.intro value.minValue_le_toInt value.toInt_le
      simp only [PortReference.codec, bounds, and_self, if_true, Int32.ofInt_toInt]
    | .name _ => rfl
  encode_isNull
    | .number _ => rfl
    | .name _ => rfl

instance : Metadata.codec.Lawful := record_lawful (by simp) fun _ => rfl

/-- Objects of a kind are lawful when their specifications are. -/
instance {σ : Type} (kind version : String) (spec : Codec σ) [spec.Lawful] :
    (Object.codec kind version spec).Lawful :=
  record_lawful (by simp) fun _ => rfl

/-! ## Deployments -/

instance : EnvVar.codec.Lawful := record_lawful (by simp) fun _ => rfl

instance : ContainerPort.codec.Lawful := record_lawful (by simp) fun _ => rfl

instance : ContainerResources.codec.Lawful := record_lawful (by simp) fun _ => rfl

instance : HttpCheck.codec.Lawful := record_lawful (by simp) fun _ => rfl

instance : Probe.codec.Lawful := record_lawful (by simp) fun _ => rfl

instance : VolumeMount.codec.Lawful := record_lawful (by simp) fun _ => rfl

instance : Container.codec.Lawful := record_lawful (by simp) fun _ => rfl

instance : ClaimSource.codec.Lawful := record_lawful (by simp) fun _ => rfl

instance : Volume.codec.Lawful := record_lawful (by simp) fun _ => rfl

instance : SecurityContext.codec.Lawful := record_lawful (by simp) fun _ => rfl

instance : PodSpec.codec.Lawful := record_lawful (by simp) fun _ => rfl

instance : PodMetadata.codec.Lawful := record_lawful (by simp) fun _ => rfl

instance : PodTemplate.codec.Lawful := record_lawful (by simp) fun _ => rfl

instance : LabelSelector.codec.Lawful := record_lawful (by simp) fun _ => rfl

instance : Strategy.codec.Lawful := record_lawful (by simp) fun _ => rfl

instance : DeploymentSpec.codec.Lawful := record_lawful (by simp) fun _ => rfl

instance : Deployment.codec.Lawful :=
  inferInstanceAs (Object.codec "Deployment" Deployment.version DeploymentSpec.codec).Lawful

/-! ## Services, claims and accounts -/

instance : ServicePort.codec.Lawful := record_lawful (by simp) fun _ => rfl

instance : ServiceSpec.codec.Lawful := record_lawful (by simp) fun _ => rfl

instance : Service.codec.Lawful :=
  inferInstanceAs (Object.codec "Service" Service.version ServiceSpec.codec).Lawful

instance : ClaimResources.codec.Lawful := record_lawful (by simp) fun _ => rfl

instance : ClaimSpec.codec.Lawful := record_lawful (by simp) fun _ => rfl

instance : VolumeClaim.codec.Lawful :=
  inferInstanceAs (Object.codec "PersistentVolumeClaim" VolumeClaim.version ClaimSpec.codec).Lawful

instance : ServiceAccount.codec.Lawful := record_lawful (by simp) fun _ => rfl

/-! ## Routes and ingresses -/

instance : RouteTarget.codec.Lawful := record_lawful (by simp) fun _ => rfl

instance : RoutePort.codec.Lawful := record_lawful (by simp) fun _ => rfl

instance : RouteTls.codec.Lawful := record_lawful (by simp) fun _ => rfl

instance : RouteSpec.codec.Lawful := record_lawful (by simp) fun _ => rfl

instance : Route.codec.Lawful :=
  inferInstanceAs (Object.codec "Route" Route.version RouteSpec.codec).Lawful

instance : BackendPort.codec.Lawful := record_lawful (by simp) fun _ => rfl

instance : ServiceBackend.codec.Lawful := record_lawful (by simp) fun _ => rfl

instance : Backend.codec.Lawful := record_lawful (by simp) fun _ => rfl

instance : IngressPath.codec.Lawful := record_lawful (by simp) fun _ => rfl

instance : RulePaths.codec.Lawful := record_lawful (by simp) fun _ => rfl

instance : IngressRule.codec.Lawful := record_lawful (by simp) fun _ => rfl

instance : IngressTls.codec.Lawful := record_lawful (by simp) fun _ => rfl

instance : IngressSpec.codec.Lawful := record_lawful (by simp) fun _ => rfl

instance : Ingress.codec.Lawful :=
  inferInstanceAs (Object.codec "Ingress" Ingress.version IngressSpec.codec).Lawful

namespace Resource

private theorem map_decode_encode {α : Type} (codec : Codec α) [codec.Lawful] (wrap : α → Resource)
    (object : α) : (codec.decode (codec.encode object)).map wrap = .ok (wrap object) := by
  rw [Lawful.decode_encode object]
  rfl

/-- An object in its JSON form stands for itself. -/
theorem decodeValue_encode (object : Resource) :
    decodeValue object.kind object.encode = .ok object := by
  cases object with
  | deployment object => exact map_decode_encode Deployment.codec deployment object
  | service object => exact map_decode_encode Service.codec service object
  | volumeClaim object => exact map_decode_encode VolumeClaim.codec volumeClaim object
  | serviceAccount object => exact map_decode_encode ServiceAccount.codec serviceAccount object
  | route object => exact map_decode_encode Route.codec route object
  | ingress object => exact map_decode_encode Ingress.codec ingress object

/-- An object that was stored in its JSON form is read as itself. -/
theorem decode_encode (object : Resource) : decode object.kind object.encode = .ok object :=
  mapError_eq_ok_iff.2 (decodeValue_encode object)

private theorem exists_of_map_eq_ok {α : Type} {read : Except DecodeError α}
    {wrap : α → Resource} {object : Resource} (found : read.map wrap = .ok object) :
    ∃ inner, wrap inner = object := by
  cases read with
  | error _ => cases found
  | ok inner => exact ⟨inner, Except.ok.inj found⟩

/-- What is read as an object of a kind is of that kind. -/
theorem kind_of_decode {kind : Kind} {value : Json} {object : Resource}
    (found : decode kind value = .ok object) : object.kind = kind := by
  have stands : decodeValue kind value = .ok object := mapError_eq_ok_iff.1 found
  cases kind <;>
    · obtain ⟨inner, rfl⟩ := exists_of_map_eq_ok stands
      rfl

end Resource

end Converge
