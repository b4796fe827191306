import Converge.Proofs.Comparison.ObjectDrift
import Converge.Proofs.Plan.Convergence

/-!
# Drift between two specifications

Where the objects that an instance wants under one specification are stored (`Plan.stored`), a pass
over the instance under another specification finds them at the places of its own objects
(`Instance.Planned.found?_stored`). Only the service account may be looked for elsewhere, since its
name may be chosen. So the verdict on each kind that both specifications want tells whether they
agree on the kind: `Instance.drift_decided_by_kind`.
-/

namespace Converge

/-- The place that an object belongs to. -/
def Resource.place (object : Resource) : Key :=
  ⟨object.kind, object.namespaceName, object.name⟩

/-- The cluster that stores some objects, each at its place, and of those of one place the first. -/
def Cluster.ofObjects (objects : List Resource) : Cluster :=
  objects.foldr (fun object cluster => cluster.put object.place object.encode) .empty

/-- The cluster that stores the objects that a plan requires. -/
def Plan.stored (plan : Plan) : Cluster := .ofObjects plan.required.toList

/-- A plan has one verdict on a kind, about an object of a name. The object is kept exactly if a
condition holds, and calls for another action exactly if the condition does not hold. -/
def Plan.Decides (plan : Plan) (kind : Kind) (name : String) (same : Prop) (otherwise : Action) :
    Prop :=
  ∃ action, plan.verdicts.filter (fun verdict => verdict.kind == kind) = [⟨kind, name, action⟩] ∧
    (action = .keep ↔ same) ∧ (action = otherwise ↔ ¬ same)

/-- Where the condition holds, it does not matter which action the object would call for otherwise. -/
theorem Plan.Decides.of_same {plan : Plan} {kind : Kind} {name : String} {same : Prop}
    {otherwise : Action} (decides : plan.Decides kind name same otherwise) (holds : same)
    {instead : Action} (acts : instead ≠ .keep) : plan.Decides kind name same instead := by
  obtain ⟨action, verdicts, keeps, _⟩ := decides
  refine ⟨action, verdicts, keeps, ?_⟩
  rw [keeps.2 holds]
  exact iff_of_false acts.symm (not_not_intro holds)

namespace Cluster

/-- At a place there is the first object that belongs there. -/
theorem get?_ofObjects (objects : List Resource) (key : Key) :
    (ofObjects objects).get? key =
      (objects.find? fun object => object.place = key).map Resource.encode := by
  induction objects with
  | nil => rfl
  | cons object rest ih =>
    have added : ofObjects (object :: rest) = (ofObjects rest).put object.place object.encode := rfl
    rw [added, get?_put, ih]
    by_cases here : object.place = key
    · simp [here]
    · simp [here]

/-- A cluster of objects is coherent. -/
theorem coherent_ofObjects (objects : List Resource) : (ofObjects objects).reader.Coherent := by
  induction objects with
  | nil => exact coherent_empty
  | cons object rest ih => exact coherent_put ih object object.namespaceName

/-- Every request for an object is answered on a cluster of objects. -/
theorem answered_ofObjects (objects : List Resource) (request : ReadRequest) :
    request.Answered (ofObjects objects).reader := by
  have held := get?_ofObjects objects request.key
  cases found : objects.find? fun object => object.place = request.key with
  | none =>
    rw [found] at held
    exact ⟨none, ReadRequest.answer_of_absent (congrArg Except.ok held)⟩
  | some object =>
    rw [found] at held
    have place : object.place = request.key := by simpa using List.find?_some found
    have kind : object.kind = request.key.kind := congrArg Key.kind place
    refine ⟨some object, ReadRequest.answer_of_stored (congrArg Except.ok held) ?_⟩
    rw [← kind]
    exact object.decode_encode

end Cluster

/-- Attainable settings have an object of every kind that they want. -/
theorem Settings.exists_wanted? {settings : Settings} {capabilities : Capabilities}
    (attainable : settings.Attainable capabilities) {kind : Kind} (wants : settings.Wants kind) :
    ∃ object, settings.wanted? kind = some object := by
  unfold Attainable at attainable
  cases kind with
  | deployment | service | serviceAccount => exact ⟨_, rfl⟩
  | volumeClaim => exact ⟨_, if_pos wants⟩
  | route | ingress =>
    have exposed : settings.exposure = some _ := wants
    rw [exposed] at attainable
    obtain ⟨_, host, configured⟩ := attainable
    exact ⟨_, by rw [wanted?, if_pos exposed, configured]; rfl⟩

namespace Instance

namespace Planned

variable {reader : Reader} {probe : Except Failure Capabilities} {first second : Instance}
  {plan next : Plan}

/-- Where what a plan requires is stored, at the place of each kind there is the wanted object. -/
theorem get?_stored (planned : Planned reader probe first plan) (kind : Kind) :
    plan.stored.get? (plan.settings.place kind) =
      (plan.settings.wanted? kind).map Resource.encode := by
  rw [Plan.stored, Cluster.get?_ofObjects]
  congr 1
  cases found : plan.required.toList.find? fun object => object.place = plan.settings.place kind with
  | some object =>
    have place : object.place = plan.settings.place kind := by simpa using List.find?_some found
    have made : object.kind = kind := congrArg Key.kind place
    have wants := planned.mem_required_iff.1 (List.mem_of_find?_eq_some found)
    rw [← wants, made]
  | none =>
    cases wants : plan.settings.wanted? kind with
    | none => rfl
    | some wanted =>
      have required : wanted ∈ plan.required.toList := by
        rw [planned.mem_required_iff, Settings.kind_of_wanted? wants]
        exact wants
      have place : wanted.place = plan.settings.place kind := Settings.place_of_wanted? wants
      exact absurd place (by simpa using List.find?_eq_none.1 found wanted required)

/-- Nothing is stored at other places. -/
theorem get?_stored_elsewhere (planned : Planned reader probe first plan) {key : Key}
    (elsewhere : ∀ kind, plan.settings.place kind ≠ key) : plan.stored.get? key = none := by
  rw [Plan.stored, Cluster.get?_ofObjects, Option.map_eq_none_iff, List.find?_eq_none]
  intro object required
  have place : object.place = plan.settings.place object.kind :=
    Settings.place_of_wanted? (planned.mem_required_iff.1 required)
  rw [place, decide_eq_true_iff]
  exact elsewhere object.kind

/-- No account is found under a name that was not used. -/
theorem found?_stored_account (planned : Planned reader probe first plan)
    (moved : plan.settings.serviceAccountName ≠ next.settings.serviceAccountName) :
    next.settings.found? next.capabilities plan.stored.reader .serviceAccount = none := by
  refine Settings.found?_of_absent (congrArg Except.ok (planned.get?_stored_elsewhere ?_))
  intro kind same
  have kinds : kind = .serviceAccount := congrArg Key.kind same
  subst kinds
  exact moved (congrArg Key.name same)

section SameInstance

variable (planned : Planned reader probe first plan)
  (followed : Planned plan.stored.reader probe second next)

include planned followed

/-- The next plan creates the account of a name that was not used. -/
theorem decides_stored_account
    (moved : plan.settings.serviceAccountName ≠ next.settings.serviceAccountName) :
    next.Decides .serviceAccount next.settings.serviceAccountName
      (plan.settings.AgreesOn next.settings .serviceAccount) .create := by
  refine ⟨.create, ?_, ?_, ?_⟩
  · rw [followed.filter_verdicts (Cluster.coherent_ofObjects _),
      planned.found?_stored_account moved]
    rfl
  · exact iff_of_false (by decide) moved
  · exact iff_of_true rfl moved

variable (named : plan.settings.name = next.settings.name)
  (placed : plan.settings.namespaceName = next.settings.namespaceName)

include named placed

/-- Of each kind that both plans of an instance want, the next one finds what the first one wanted,
as long as it looks for it under the same name. -/
theorem found?_stored {kind : Kind} {object : Resource}
    (account : kind = .serviceAccount →
      plan.settings.serviceAccountName = next.settings.serviceAccountName)
    (made : plan.settings.wanted? kind = some object) (wants : next.settings.Wants kind) :
    next.settings.found? next.capabilities plan.stored.reader kind = some object := by
  have names : plan.settings.nameOf kind = next.settings.nameOf kind := by
    cases kind with
    | serviceAccount => exact account rfl
    | deployment | service | volumeClaim | route | ingress => exact named
  have place : plan.settings.place kind = next.settings.place kind := by
    rw [Settings.place, Settings.place, placed, names]
  obtain ⟨_, wanted⟩ := Settings.exists_wanted? followed.attainable wants
  have held := planned.get?_stored kind
  rw [made, place] at held
  refine Settings.found?_of_stored (Settings.isRead_of_wanted? followed.attainable wanted)
    (congrArg Except.ok held) ?_
  rw [← Settings.kind_of_wanted? made]
  exact object.decode_encode

/-- On each kind that both plans of an instance want, the next one has one verdict: it keeps the
object if the settings agree on the kind, and updates it if they do not. -/
theorem decides_stored {kind : Kind}
    (account : kind = .serviceAccount →
      plan.settings.serviceAccountName = next.settings.serviceAccountName)
    (made : plan.settings.Wants kind) (wants : next.settings.Wants kind) :
    next.Decides kind (next.settings.nameOf kind) (plan.settings.AgreesOn next.settings kind)
      .update := by
  obtain ⟨found, made⟩ := Settings.exists_wanted? planned.attainable made
  obtain ⟨wanted, wanted_eq⟩ := Settings.exists_wanted? followed.attainable wants
  have finds := planned.found?_stored followed named placed account made wants
  have compares : next.registry.compare kind found wanted = true ↔
      plan.settings.AgreesOn next.settings kind := by
    rw [followed.registry_eq, Facet.compare_ownedKinds]
    exact Settings.ofKind_wanted?_iff named placed account made wanted_eq
  refine ⟨if next.registry.compare kind found wanted then .keep else .update, ?_, ?_, ?_⟩
  · rw [followed.filter_verdicts (Cluster.coherent_ofObjects _), wanted_eq, finds,
      ← Settings.name_of_wanted? wanted_eq]
    rfl
  · rw [← compares]
    split <;> simp [*]
  · rw [← compares]
    split <;> simp [*]

end SameInstance

end Planned

/-- Where the objects that an instance wants under one specification are stored, a pass over it under
another specification has one verdict on each kind that both want. It keeps the object exactly when
they agree on the kind (`Settings.AgreesOn`), and updates it otherwise; a service account of another
name is created. -/
theorem drift_decided_by_kind {capabilities : Capabilities} {first second : Instance}
    {plan other : Plan} (named : first.metadata.name = second.metadata.name)
    (placed : first.metadata.namespaceName = second.metadata.namespaceName)
    (planned : (first.plan Cluster.empty.reader (.ok capabilities)).result = .ok plan)
    (alone : (second.plan Cluster.empty.reader (.ok capabilities)).result = .ok other) :
    ∃ next, (second.plan plan.stored.reader (.ok capabilities)).result = .ok next ∧
      next.settings = other.settings ∧
      (∀ kind, kind ≠ .serviceAccount → plan.settings.Wants kind → other.settings.Wants kind →
        next.Decides kind other.owner (plan.settings.AgreesOn other.settings kind) .update) ∧
      next.Decides .serviceAccount other.settings.serviceAccountName
        (plan.settings.AgreesOn other.settings .serviceAccount) .create := by
  have planned := planned_iff.1 planned
  have alone := planned_iff.1 alone
  have followed := alone.reread fun request _ =>
    Cluster.answered_ofObjects plan.required.toList request
  obtain ⟨name_eq, space_eq⟩ := metadata_of_identity planned.identity_eq
  obtain ⟨name_eq', space_eq'⟩ := metadata_of_identity alone.identity_eq
  have owner : plan.owner = other.owner :=
    Option.some.inj (name_eq.symm.trans (named.trans name_eq'))
  have space : plan.namespaceName = other.namespaceName :=
    Option.some.inj (space_eq.symm.trans (placed.trans space_eq'))
  have names : plan.settings.name = other.settings.name := by
    rw [planned.name_eq, alone.name_eq, owner]
  have spaces : plan.settings.namespaceName = other.settings.namespaceName := by
    rw [planned.namespaceName_eq, alone.namespaceName_eq, space]
  refine ⟨_, planned_iff.2 followed, rfl, fun kind shared made wants => ?_, ?_⟩
  · have ownName : other.settings.nameOf kind = other.owner := by
      rw [← alone.name_eq]
      cases kind with
      | serviceAccount => exact absurd rfl shared
      | deployment | service | volumeClaim | route | ingress => rfl
    rw [← ownName]
    exact planned.decides_stored followed names spaces (fun account => absurd account shared) made
      wants
  · by_cases same : plan.settings.serviceAccountName = other.settings.serviceAccountName
    · have kept : Plan.Decides _ .serviceAccount _ _ .update :=
        planned.decides_stored followed names spaces (fun _ => same) trivial trivial
      exact kept.of_same same (by decide)
    · exact planned.decides_stored_account followed same

/-- An instance with a volume and some pods. -/
def persistentInstance (replicas : UInt32) : Instance :=
  .of (some "nexus3") (some "tools")
    { InstanceSpec.blank with replicas, persistence := some ⟨true, none, none⟩ }

/-- When an instance gets more pods, its claim is updated and its service is kept. -/
theorem drift_of_scaled_instance :
    ∃ plan other next,
      ((persistentInstance 1).plan Cluster.empty.reader (.ok .none)).result = .ok plan ∧
      ((persistentInstance 3).plan Cluster.empty.reader (.ok .none)).result = .ok other ∧
      ((persistentInstance 3).plan plan.stored.reader (.ok .none)).result = .ok next ∧
      ⟨.volumeClaim, "nexus3", .update⟩ ∈ next.verdicts ∧
      ⟨.service, "nexus3", .keep⟩ ∈ next.verdicts := by
  obtain ⟨plan, other, planned, alone⟩ : ∃ plan other,
      ((persistentInstance 1).plan Cluster.empty.reader (.ok .none)).result = .ok plan ∧
      ((persistentInstance 3).plan Cluster.empty.reader (.ok .none)).result = .ok other :=
    ⟨_, _, rfl, rfl⟩
  have named : (persistentInstance 1).metadata.name = (persistentInstance 3).metadata.name := rfl
  obtain ⟨next, followed, _, decides, _⟩ := drift_decided_by_kind named rfl planned alone
  have owner : other.owner = "nexus3" :=
    (Option.some.inj (metadata_of_identity (planned_iff.1 alone).identity_eq).1).symm
  rw [owner, (planned_iff.1 planned).settings_eq, (planned_iff.1 alone).settings_eq] at decides
  obtain ⟨_, claims, _, updates⟩ := decides .volumeClaim (by decide) rfl rfl
  obtain ⟨_, services, keeps, _⟩ := decides .service (by decide) trivial trivial
  have more : ¬ ((1 : UInt32) ≤ 1 ↔ (3 : UInt32) ≤ 1) := by decide
  have scaled := updates.2 fun agrees => more agrees.1
  have same := keeps.2 ⟨Iff.rfl, fun _ => rfl⟩
  rw [scaled] at claims
  rw [same] at services
  refine ⟨plan, other, next, planned, alone, followed, ?_, ?_⟩
  · exact (List.mem_filter.1 (claims ▸ List.mem_singleton_self _)).1
  · exact (List.mem_filter.1 (services ▸ List.mem_singleton_self _)).1

end Instance

end Converge
