import Converge.Comparison.Registry

/-!
# An object is as it is wanted when it is the wanted one

Every comparison accepts an object for itself, apart from amounts: two texts are compared by the
amounts they stand for, and an amount beyond the format is not equal to itself. So an object meets
itself when each of its quantities (`Resource.quantities`) is equal to itself
(`Comparison.ofKind_self`). Only deployments and claims have quantities.
-/

namespace Converge

/-- A list meets itself when its elements do. -/
theorem meetsPairwise_self {α : Type} {meets : α → α → Bool} {items : List α}
    (same : ∀ item ∈ items, meets item item = true) : meetsPairwise meets items items = true := by
  induction items with
  | nil => rfl
  | cons item rest ih =>
    have here := same item List.mem_cons_self
    have behind := ih fun other inside => same other (List.mem_cons_of_mem _ inside)
    simp only [meetsPairwise, here, behind, Bool.and_self]

theorem meetsIfWanted_self {α : Type} [BEq α] [ReflBEq α] (value : Option α) :
    meetsIfWanted value value = true := by
  simp [meetsIfWanted]

namespace Dict

theorem isSubsetOf_self (dict : Dict) : dict.isSubsetOf dict = true :=
  isSubsetOf_iff.2 fun _ _ found => found

/-- The values of a dictionary of quantities. -/
def quantities (dict : Dict) : List String := dict.entries.map (·.2)

/-- A dictionary of quantities meets itself when each of its quantities is equal to itself. -/
theorem amountsMeet_self {dict : Dict}
    (same : ∀ quantity ∈ dict.quantities, Quantity.equal quantity quantity = true) :
    dict.amountsMeet dict = true := by
  simp only [amountsMeet, beq_self_eq_true, Bool.true_and, List.all_eq_true]
  rintro ⟨key, quantity⟩ inside
  have found := mem_entries_iff.1 inside
  have equal := same quantity (List.mem_map.2 ⟨_, inside, rfl⟩)
  simpa [found] using equal

private theorem mem_of_mem_foldl_insert {entries : List (String × String)} {dict : Dict}
    {entry : String × String}
    (inside : entry ∈
      (entries.foldl (fun dict entry => dict.insert entry.1 entry.2) dict).entries) :
    entry ∈ dict.entries ∨ entry ∈ entries := by
  induction entries generalizing dict with
  | nil => exact .inl inside
  | cons head rest ih =>
    rcases ih inside with before | after
    · have found := mem_entries_iff.1 before
      rw [get?_insert] at found
      split at found
      · next here =>
        have same : entry = head := Prod.ext here (Option.some.inj found).symm
        exact .inr (same ▸ List.mem_cons_self)
      · exact .inl (mem_entries_iff.2 found)
    · exact .inr (List.mem_cons_of_mem _ after)

/-- The entries of a dictionary are among those that it is made of. -/
theorem mem_of_mem_ofList {entries : List (String × String)} {entry : String × String}
    (inside : entry ∈ (ofList entries).entries) : entry ∈ entries := by
  rcases mem_of_mem_foldl_insert inside with before | after
  · cases before
  · exact after

end Dict

/-- Metadata is as wanted when it is the wanted one. -/
theorem Metadata.meets_self (metadata : Metadata) : metadata.meets metadata = true := by
  simp [meets, Dict.isSubsetOf_self]

namespace Container

/-- The quantities in the resources of a container. -/
def quantities (container : Container) : List String :=
  container.effectiveResources.requests.quantities ++
    container.effectiveResources.limits.quantities

/-- A container meets itself when each of its quantities is equal to itself. -/
theorem meets_self {container : Container}
    (same : ∀ quantity ∈ container.quantities, Quantity.equal quantity quantity = true) :
    container.meets container = true := by
  have requests : container.effectiveResources.requests.amountsMeet
      container.effectiveResources.requests = true :=
    Dict.amountsMeet_self fun quantity inside => same quantity (List.mem_append_left _ inside)
  have limits : container.effectiveResources.limits.amountsMeet
      container.effectiveResources.limits = true :=
    Dict.amountsMeet_self fun quantity inside => same quantity (List.mem_append_right _ inside)
  simp only [meets, requests, limits, beq_self_eq_true, Bool.and_self]

end Container

namespace Resource

/-- The quantities in an object. -/
def quantities : Resource → List String
  | deployment object => object.spec.template.spec.containers.flatMap Container.quantities
  | volumeClaim object => object.spec.storageRequest.toList
  | service _ | serviceAccount _ | route _ | ingress _ => []

end Resource

private theorem Deployment.meets_self {object : Deployment}
    (same : ∀ quantity ∈ (Resource.deployment object).quantities,
      Quantity.equal quantity quantity = true) :
    object.meets object = true := by
  have containers : meetsPairwise Container.meets object.spec.template.spec.containers
      object.spec.template.spec.containers = true := by
    refine meetsPairwise_self fun container inside => Container.meets_self fun quantity within => ?_
    exact same quantity (List.mem_flatMap.2 ⟨container, inside, within⟩)
  have pods : object.spec.template.spec.meets object.spec.template.spec = true := by
    simp only [PodSpec.meets, containers, meetsIfWanted_self, beq_self_eq_true, Bool.and_self]
  simp only [Deployment.meets, pods, Metadata.meets_self, Dict.isSubsetOf_self, beq_self_eq_true,
    Bool.and_self]

private theorem VolumeClaim.meets_self {object : VolumeClaim}
    (same : ∀ quantity ∈ (Resource.volumeClaim object).quantities,
      Quantity.equal quantity quantity = true) :
    object.meets object = true := by
  simp only [VolumeClaim.meets, Metadata.meets_self, meetsIfWanted_self, beq_self_eq_true,
    Bool.true_and, Bool.and_true]
  cases requested : object.spec.storageRequest with
  | none => rfl
  | some size => exact same size (by simp [Resource.quantities, requested])

private theorem Service.meets_self (object : Service) : object.meets object = true := by
  have ports : meetsPairwise ServicePort.meets object.spec.ports object.spec.ports = true := by
    refine meetsPairwise_self fun port _ => ?_
    simp only [ServicePort.meets, meetsIfWanted_self, beq_self_eq_true, Bool.and_self]
  simp only [Service.meets, ports, Metadata.meets_self, beq_self_eq_true, Bool.and_self]

/-- The comparison of its kind accepts an object for itself when each of its quantities is equal to
itself. -/
theorem Comparison.ofKind_self {object : Resource}
    (same : ∀ quantity ∈ object.quantities, Quantity.equal quantity quantity = true) :
    Comparison.ofKind object.kind object object = true := by
  cases object with
  | deployment object => exact Deployment.meets_self same
  | volumeClaim object => exact VolumeClaim.meets_self same
  | service object => exact Service.meets_self object
  | serviceAccount object => exact object.metadata.meets_self
  | route object =>
    simp only [Resource.kind, ofKind, Route.meets, Metadata.meets_self, meetsIfWanted_self,
      beq_self_eq_true, Bool.and_self]
  | ingress object =>
    simp only [Resource.kind, ofKind, Ingress.meets, Metadata.meets_self, beq_self_eq_true,
      Bool.and_self]

end Converge
