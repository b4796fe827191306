import Converge.Plan.Cluster
import Converge.Proofs.Object.RoundTrip
import Converge.Proofs.Plan.Verdicts

/-!
# Carrying out plans

What is stored at one place after a plan is carried out (`Plan.get?_apply`) depends on what was
stored there before and on the verdicts about that place only: each of them leads to its
`Plan.outcome`, in their order, and the verdicts about other places do not matter.

Storing an object in its JSON form under its own kind and name keeps a cluster coherent, and so does
removing one, so carrying out a plan does (`Plan.coherent_apply`).
-/

namespace Converge

namespace Cluster

/-- Removing clears one place and leaves the others. -/
theorem get?_remove (cluster : Cluster) (key other : Key) :
    (cluster.remove key).get? other = if key = other then none else cluster.get? other := by
  unfold remove get?
  rw [List.find?_filter]
  by_cases same : key = other
  · simp [same]
  · rw [if_neg same]
    congr 2
    funext entry
    by_cases here : entry.1 = other
    · simp [here, Ne.symm same]
    · simp [here]

/-- Storing fills one place and leaves the others. -/
theorem get?_put (cluster : Cluster) (key : Key) (value : Json) (other : Key) :
    (cluster.put key value).get? other =
      if key = other then some value else cluster.get? other := by
  have removed := get?_remove cluster key other
  unfold get? at removed ⊢
  unfold put
  by_cases same : key = other
  · simp [same]
  · simpa [same] using removed

/-- A cluster that stores nothing is coherent. -/
theorem coherent_empty : empty.reader.Coherent := by
  intro key value object held
  cases held

/-- A coherent cluster stays coherent when something is removed. -/
theorem coherent_remove {cluster : Cluster} (coherent : cluster.reader.Coherent) (cleared : Key) :
    (cluster.remove cleared).reader.Coherent := by
  intro key value object held read
  simp only [reader, get?_remove, Except.ok.injEq] at held
  split at held
  · cases held
  · exact coherent key value object (congrArg Except.ok held) read

/-- A coherent cluster stays coherent when an object is stored under its own kind and name. -/
theorem coherent_put {cluster : Cluster} (coherent : cluster.reader.Coherent) (object : Resource)
    (space : String) :
    (cluster.put ⟨object.kind, space, object.name⟩ object.encode).reader.Coherent := by
  intro key value other held read
  simp only [reader, get?_put, Except.ok.injEq] at held
  split at held
  · next here =>
    subst here
    cases held
    rw [Resource.decode_encode] at read
    cases read
    rfl
  · exact coherent key value other (congrArg Except.ok held) read

end Cluster

/-- An object that is found in a set is of the kind and the name that it is looked for by. -/
theorem ResourceSet.kind_name_of_find? {set : ResourceSet} {kind : Kind}
    {name : String} {object : Resource} (found : set.find? kind name = some object) :
    object.kind = kind ∧ object.name = name := by
  have inside := List.mem_of_find?_eq_some found
  have named := List.find?_some found
  exact ⟨(mem_ofKind_iff.1 inside).2, by simpa using named⟩

namespace Plan

/-- The place that a verdict is about. -/
def placeOf (plan : Plan) (verdict : Verdict) : Key :=
  ⟨verdict.kind, plan.namespaceName, verdict.name⟩

/-- What is stored at the place of a verdict after it is carried out. -/
def outcome (plan : Plan) (stored : Option Json) (verdict : Verdict) : Option Json :=
  match verdict.action with
  | .keep => stored
  | .delete => none
  | .create | .update =>
    match plan.required.find? verdict.kind verdict.name with
    | some object => some object.encode
    | none => stored

/-- Carrying out a verdict leads to its outcome at its place and changes nothing elsewhere. -/
theorem get?_carryOut (plan : Plan) (cluster : Cluster) (verdict : Verdict) (key : Key) :
    (plan.carryOut cluster verdict).get? key =
      if plan.placeOf verdict = key then plan.outcome (cluster.get? key) verdict
      else cluster.get? key := by
  obtain ⟨kind, name, action⟩ := verdict
  unfold carryOut outcome placeOf
  cases action with
  | keep => simp
  | delete => exact Cluster.get?_remove cluster _ key
  | create | update =>
    cases plan.required.find? kind name with
    | none => simp
    | some object => exact Cluster.get?_put cluster _ object.encode key

/-- Carrying out a verdict keeps a cluster coherent. -/
theorem coherent_carryOut (plan : Plan) {cluster : Cluster} (coherent : cluster.reader.Coherent)
    (verdict : Verdict) : (plan.carryOut cluster verdict).reader.Coherent := by
  obtain ⟨kind, name, action⟩ := verdict
  unfold carryOut
  cases action with
  | keep => exact coherent
  | delete => exact Cluster.coherent_remove coherent _
  | create | update =>
    cases found : plan.required.find? kind name with
    | none => simpa [found] using coherent
    | some object =>
      obtain ⟨rfl, rfl⟩ := ResourceSet.kind_name_of_find? found
      simpa [found] using Cluster.coherent_put coherent object plan.namespaceName

/-- Carrying out a plan keeps a cluster coherent. -/
theorem coherent_apply (plan : Plan) {cluster : Cluster} (coherent : cluster.reader.Coherent) :
    (plan.apply cluster).reader.Coherent := by
  unfold apply
  induction plan.verdicts generalizing cluster with
  | nil => exact coherent
  | cons verdict rest ih => exact ih (plan.coherent_carryOut coherent verdict)

/-- After a run of verdicts, what is stored at a place is the outcome of those about it. -/
theorem get?_foldl_carryOut (plan : Plan) (verdicts : List Verdict) (cluster : Cluster)
    (key : Key) :
    (verdicts.foldl plan.carryOut cluster).get? key =
      (verdicts.filter fun verdict => plan.placeOf verdict = key).foldl plan.outcome
        (cluster.get? key) := by
  induction verdicts generalizing cluster with
  | nil => rfl
  | cons verdict rest ih =>
    rw [List.foldl_cons, ih, get?_carryOut]
    by_cases here : plan.placeOf verdict = key
    · simp [here]
    · simp [here]

/-- After a plan is carried out, what is stored at a place is the outcome of the verdicts about
it. -/
theorem get?_apply (plan : Plan) (cluster : Cluster) (key : Key) :
    (plan.apply cluster).get? key =
      (plan.verdicts.filter fun verdict => plan.placeOf verdict = key).foldl plan.outcome
        (cluster.get? key) :=
  plan.get?_foldl_carryOut plan.verdicts cluster key

end Plan

end Converge
