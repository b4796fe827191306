import Converge.Instance.Spec
import Converge.Proofs.Object.RoundTrip

/-!
# Specifications survive being written

What a user writes down about an instance is lawful like the objects of the cluster, though it is
written otherwise: a part that is given is read as given even if nothing is said in it, so an absent
part and an empty one stay apart. `objects_and_specs_read_back` states the law for all that is
written in JSON form.
-/

namespace Converge

open Codec

instance : Exposure.codec.Lawful where
  decode_encode
    | .nodePort => rfl
    | .route => rfl
    | .ingress => rfl
  encode_isNull _ := rfl

instance : ResourceAmounts.codec.Lawful := record_lawful (by simp) fun _ => rfl

instance : ResourceNeeds.codec.Lawful := record_lawful (by simp) fun _ => rfl

instance : Credentials.codec.Lawful := record_lawful (by simp) fun _ => rfl

instance : PersistenceSpec.codec.Lawful := record_lawful (by simp) fun _ => rfl

instance : TlsSpec.codec.Lawful := record_lawful (by simp) fun _ => rfl

instance : NetworkingSpec.codec.Lawful := record_lawful (by simp) fun _ => rfl

instance : ProbeTiming.codec.Lawful := record_lawful (by simp) fun _ => rfl

instance : InstanceSpec.codec.Lawful := record_lawful (by simp) fun _ => rfl

/-- Every object of every kind and every specification is read from its JSON form as it was
written, whatever its fields hold. -/
theorem objects_and_specs_read_back :
    (∀ object : Resource, Resource.decode object.kind object.encode = .ok object) ∧
      ∀ spec : InstanceSpec, InstanceSpec.codec.decode (InstanceSpec.codec.encode spec) = .ok spec :=
  ⟨Resource.decode_encode, InstanceSpec.codec.decode_encode⟩

end Converge
