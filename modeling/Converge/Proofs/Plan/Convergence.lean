import Converge.Proofs.Comparison.Reflexive
import Converge.Proofs.Plan.Cluster

/-!
# Plans converge

Once a plan is carried out there is nothing left to do. Where an object is wanted there is then
either the wanted object itself, which meets itself as long as its quantities do, or what was found
to meet it before (`Instance.Planned.get?_apply_of_wanted?`); where none is wanted and the place is
read there is nothing (`get?_apply_of_unwanted`). So the next pass reads objects that it can decode,
wants what the first one wanted, and keeps all of it: `Instance.apply_converges`.
-/

namespace Converge

/-- A verdict on a kind is about the name that the objects of the kind bear. -/
theorem Registry.kind_name_of_verdict? {registry : Registry} {kind : Kind}
    {wanted? found? : Option Resource} {verdict : Verdict} {name : String}
    (wantedName : ∀ wanted ∈ wanted?, wanted.name = name)
    (foundName : ∀ found ∈ found?, found.name = name)
    (judged : registry.verdict? kind wanted? found? = some verdict) :
    verdict.kind = kind ∧ verdict.name = name := by
  cases wanted? with
  | none =>
    cases found? with
    | none => cases judged
    | some found =>
      cases judged
      exact ⟨rfl, foundName found rfl⟩
  | some wanted =>
    have named := wantedName wanted rfl
    cases found? with
    | none =>
      cases judged
      exact ⟨rfl, named⟩
    | some found =>
      cases judged
      exact ⟨rfl, named⟩

/-- The quantities in amounts. -/
def ResourceAmounts.quantities (amounts : ResourceAmounts) : List String :=
  amounts.cpu.toList ++ amounts.memory.toList

namespace Settings

variable {settings : Settings}

/-- The quantities in settings: the amounts of the resources and the size of the volume. -/
def quantities (settings : Settings) : List String :=
  (settings.resources.requests.toList ++ settings.resources.limits.toList).flatMap
      ResourceAmounts.quantities ++
    [settings.persistence.volumeSize]

private theorem mem_quantities_of_side {side : Option ResourceAmounts}
    (known : side = settings.resources.requests ∨ side = settings.resources.limits)
    {key quantity : String}
    (inside : (key, quantity) ∈ ((side.bind (·.cpu)).map fun amount => ("cpu", amount)).toList ++
      ((side.bind (·.memory)).map fun amount => ("memory", amount)).toList) :
    quantity ∈ settings.quantities := by
  cases side with
  | none => simp at inside
  | some amounts =>
    have given : quantity ∈ amounts.quantities := by
      simp only [Option.bind_some, List.mem_append, Option.mem_toList, Option.map_eq_some_iff,
        Prod.mk.injEq] at inside
      rcases inside with ⟨_, given, _, rfl⟩ | ⟨_, given, _, rfl⟩
      · simp [ResourceAmounts.quantities, given]
      · simp [ResourceAmounts.quantities, given]
    refine List.mem_append_left _ (List.mem_flatMap.2 ⟨amounts, ?_, given⟩)
    rcases known with known | known
    · simp [← known]
    · simp [← known]

private theorem mem_quantities_of_container {quantity : String}
    (inside : quantity ∈ settings.container.quantities) : quantity ∈ settings.quantities := by
  rcases List.mem_append.1 inside with request | limit
  · obtain ⟨⟨key, _⟩, within, rfl⟩ := List.mem_map.1 request
    exact mem_quantities_of_side (.inl rfl) (Dict.mem_of_mem_ofList within)
  · obtain ⟨⟨key, _⟩, within, rfl⟩ := List.mem_map.1 limit
    exact mem_quantities_of_side (.inr rfl) (Dict.mem_of_mem_ofList within)

/-- The quantities in what settings want are quantities of the settings. -/
theorem mem_quantities_of_wanted? {kind : Kind} {object : Resource}
    (wanted : settings.wanted? kind = some object) {quantity : String}
    (inside : quantity ∈ object.quantities) : quantity ∈ settings.quantities := by
  have made := kind_of_wanted? wanted
  cases kind <;> simp only [wanted?] at wanted
  case deployment =>
    cases wanted
    obtain ⟨container, listed, inside⟩ := List.mem_flatMap.1 inside
    cases List.mem_singleton.1 listed
    exact mem_quantities_of_container inside
  case volumeClaim =>
    split at wanted
    · cases wanted
      have size : settings.volumeClaim.spec.storageRequest =
          some settings.persistence.volumeSize := by
        simp [volumeClaim, VolumeClaim.of, ClaimSpec.storageRequest, Dict.get?_insert]
      simp only [Resource.quantities, size, Option.toList_some] at inside
      exact List.mem_append_right _ inside
    · cases wanted
  all_goals
    cases object <;> cases made
    cases inside

end Settings

namespace Instance

namespace Planned

variable {cluster : Cluster} {probe : Except Failure Capabilities} {declaration : Instance}
  {plan : Plan}

/-- What is wanted is among what a plan requires. -/
theorem find?_required {reader : Reader} (planned : Planned reader probe declaration plan)
    {kind : Kind} {wanted : Resource} (wants : plan.settings.wanted? kind = some wanted) :
    plan.required.find? kind wanted.name = some wanted := by
  rw [ResourceSet.find?, planned.ofKind_required, wants]
  simp

/-- On a coherent cluster, the verdict on a kind is about the place of the kind. -/
theorem placeOf_of_verdict? {reader : Reader} (planned : Planned reader probe declaration plan)
    (coherent : reader.Coherent) {kind : Kind} {verdict : Verdict}
    (judged : plan.registry.verdict? kind (plan.settings.wanted? kind)
      (plan.settings.found? plan.capabilities reader kind) = some verdict) :
    plan.placeOf verdict = plan.settings.place kind := by
  obtain ⟨rfl, named⟩ := Registry.kind_name_of_verdict?
    (fun _ wants => Settings.name_of_wanted? wants)
    (fun _ finds => Settings.name_of_found? coherent finds) judged
  rw [Plan.placeOf, named, ← planned.namespaceName_eq]
  rfl

/-- On a coherent cluster, every verdict of a plan is about the place of its kind. -/
theorem placeOf_of_mem_verdicts {reader : Reader} (planned : Planned reader probe declaration plan)
    (coherent : reader.Coherent) {verdict : Verdict} (inside : verdict ∈ plan.verdicts) :
    plan.placeOf verdict = plan.settings.place verdict.kind := by
  rw [planned.verdicts_eq coherent] at inside
  obtain ⟨kind, _, judged⟩ := List.mem_filterMap.1 inside
  have place := planned.placeOf_of_verdict? coherent judged
  have same : verdict.kind = kind := congrArg Key.kind place
  rw [same]
  exact place

/-- On a coherent cluster, the verdicts of a plan on a kind are at most one. -/
theorem filter_verdicts {reader : Reader} (planned : Planned reader probe declaration plan)
    (coherent : reader.Coherent) (kind : Kind) :
    plan.verdicts.filter (fun verdict => verdict.kind == kind) =
      (plan.registry.verdict? kind (plan.settings.wanted? kind)
        (plan.settings.found? plan.capabilities reader kind)).toList := by
  rw [planned.verdicts_eq coherent]
  exact Kind.filter_filterMap_planning Verdict.kind _
    (fun _ _ judged => congrArg Key.kind (planned.placeOf_of_verdict? coherent judged)) kind

/-- On a coherent cluster, a plan leaves what is stored at other places than those of its kinds. -/
theorem get?_apply_elsewhere (planned : Planned cluster.reader probe declaration plan)
    (coherent : cluster.reader.Coherent) {key : Key}
    (elsewhere : ∀ kind, plan.settings.place kind ≠ key) :
    (plan.apply cluster).get? key = cluster.get? key := by
  have others : ∀ verdict ∈ plan.verdicts, ¬ decide (plan.placeOf verdict = key) = true := by
    intro verdict inside
    rw [planned.placeOf_of_mem_verdicts coherent inside, decide_eq_true_iff]
    exact elsewhere verdict.kind
  rw [Plan.get?_apply, List.filter_eq_nil_iff.2 others, List.foldl_nil]

/-- On a coherent cluster, what is stored at the place of a kind after a plan is the outcome of the
verdict on the kind. -/
theorem get?_apply_place (planned : Planned cluster.reader probe declaration plan)
    (coherent : cluster.reader.Coherent) (kind : Kind) :
    (plan.apply cluster).get? (plan.settings.place kind) =
      (plan.registry.verdict? kind (plan.settings.wanted? kind)
        (plan.settings.found? plan.capabilities cluster.reader kind)).toList.foldl plan.outcome
          (cluster.get? (plan.settings.place kind)) := by
  -- The verdicts about the place are those on the kind.
  have about : ∀ verdict ∈ plan.verdicts,
      decide (plan.placeOf verdict = plan.settings.place kind) = (verdict.kind == kind) := by
    intro verdict inside
    rw [planned.placeOf_of_mem_verdicts coherent inside]
    by_cases here : verdict.kind = kind
    · simp [here]
    · have differ : plan.settings.place verdict.kind ≠ plan.settings.place kind :=
        fun equal => here (congrArg Key.kind equal)
      simp [here, differ]
  rw [Plan.get?_apply, List.filter_congr about, planned.filter_verdicts coherent]

/-- After a plan, at the place of a kind that is wanted there is the wanted object, or still what
was found there and met it. -/
theorem get?_apply_of_wanted? (planned : Planned cluster.reader probe declaration plan)
    (coherent : cluster.reader.Coherent) {kind : Kind} {wanted : Resource}
    (wants : plan.settings.wanted? kind = some wanted) :
    (plan.apply cluster).get? (plan.settings.place kind) = some wanted.encode ∨
      ∃ found, plan.settings.found? plan.capabilities cluster.reader kind = some found ∧
        plan.registry.compare kind found wanted = true ∧
        (plan.apply cluster).get? (plan.settings.place kind) =
          cluster.get? (plan.settings.place kind) := by
  have required := planned.find?_required wants
  have after := planned.get?_apply_place coherent kind
  rw [wants] at after
  cases finds : plan.settings.found? plan.capabilities cluster.reader kind with
  | none =>
    rw [finds] at after
    refine .inl (after.trans ?_)
    simp [Registry.verdict?, Plan.outcome, required]
  | some found =>
    rw [finds] at after
    cases meets : plan.registry.compare kind found wanted with
    | true =>
      refine .inr ⟨found, rfl, meets, after.trans ?_⟩
      simp [Registry.verdict?, Plan.outcome, meets]
    | false =>
      refine .inl (after.trans ?_)
      simp [Registry.verdict?, Plan.outcome, meets, required]

/-- After a plan there is nothing at the place of a kind that is read and not wanted. -/
theorem get?_apply_of_unwanted (planned : Planned cluster.reader probe declaration plan)
    (coherent : cluster.reader.Coherent) {kind : Kind}
    (unwanted : plan.settings.wanted? kind = none)
    (reads : plan.settings.isRead plan.capabilities kind = true) :
    (plan.apply cluster).get? (plan.settings.place kind) = none := by
  have after := planned.get?_apply_place coherent kind
  rw [unwanted] at after
  cases finds : plan.settings.found? plan.capabilities cluster.reader kind with
  | none =>
    rw [finds] at after
    have absent : cluster.get? (plan.settings.place kind) = none := by
      cases held : cluster.get? (plan.settings.place kind) with
      | none => rfl
      | some value =>
        have holds : cluster.reader.Holds (plan.settings.place kind) :=
          ⟨value, congrArg Except.ok held⟩
        obtain ⟨found, contrary⟩ := (planned.exists_found?_iff kind).2 ⟨reads, holds⟩
        rw [finds] at contrary
        cases contrary
    exact after.trans absent
  | some found =>
    rw [finds] at after
    exact after

/-- After a plan, what is wanted is stored, as it is wanted or in a form that meets it. -/
theorem exists_stored_of_wanted? (planned : Planned cluster.reader probe declaration plan)
    (coherent : cluster.reader.Coherent) {kind : Kind} {wanted : Resource}
    (wants : plan.settings.wanted? kind = some wanted) :
    ∃ value object, (plan.apply cluster).reader (plan.settings.place kind) = .ok (some value) ∧
      Resource.decode kind value = .ok object ∧
      (object = wanted ∨ plan.registry.compare kind object wanted = true) := by
  rcases planned.get?_apply_of_wanted? coherent wants with written | ⟨found, finds, meets, kept⟩
  · refine ⟨wanted.encode, wanted, congrArg Except.ok written, ?_, .inl rfl⟩
    rw [← Settings.kind_of_wanted? wants]
    exact wanted.decode_encode
  · obtain ⟨value, held, read⟩ := Settings.stored_of_found? finds
    refine ⟨value, found, ?_, read, .inr meets⟩
    rw [← held]
    exact congrArg Except.ok kept

/-- After a plan, every request of the plan is answered. -/
theorem answered_apply (planned : Planned cluster.reader probe declaration plan)
    (coherent : cluster.reader.Coherent) :
    ∀ request ∈ plan.settings.reads plan.capabilities,
      request.Answered (plan.apply cluster).reader := by
  intro request asked
  rw [Settings.reads_eq_filterMap] at asked
  obtain ⟨kind, _, requested⟩ := List.mem_filterMap.1 asked
  have key := Settings.key_of_request? requested
  cases wants : plan.settings.wanted? kind with
  | some wanted =>
    obtain ⟨value, object, held, read, _⟩ := planned.exists_stored_of_wanted? coherent wants
    rw [← key] at held
    exact ⟨some object, ReadRequest.answer_of_stored held (by rw [key]; exact read)⟩
  | none =>
    have reads := Settings.isRead_of_request? requested
    have absent := planned.get?_apply_of_unwanted coherent wants reads
    rw [← key] at absent
    exact ⟨none, ReadRequest.answer_of_absent (congrArg Except.ok absent)⟩

/-- What is wanted meets itself when its quantities do. -/
theorem compare_self_of_wanted? {reader : Reader}
    (planned : Planned reader probe declaration plan) {kind : Kind} {wanted : Resource}
    (wants : plan.settings.wanted? kind = some wanted)
    (comparable : ∀ quantity ∈ wanted.quantities, Quantity.equal quantity quantity = true) :
    plan.registry.compare kind wanted wanted = true := by
  rw [planned.registry_eq, Facet.compare_ownedKinds, ← Settings.kind_of_wanted? wants]
  exact Comparison.ofKind_self comparable

/-- After a plan, what is wanted is found in a form that meets it, as long as its quantities are
equal to themselves. -/
theorem exists_found?_apply (planned : Planned cluster.reader probe declaration plan)
    (coherent : cluster.reader.Coherent) {kind : Kind} {wanted : Resource}
    (wants : plan.settings.wanted? kind = some wanted)
    (comparable : ∀ quantity ∈ wanted.quantities, Quantity.equal quantity quantity = true) :
    ∃ found,
      plan.settings.found? plan.capabilities (plan.apply cluster).reader kind = some found ∧
      plan.registry.compare kind found wanted = true := by
  have reads := Settings.isRead_of_wanted? planned.attainable wants
  obtain ⟨value, found, held, read, same | meets⟩ :=
    planned.exists_stored_of_wanted? coherent wants
  · refine ⟨found, Settings.found?_of_stored reads held read, ?_⟩
    rw [same]
    exact planned.compare_self_of_wanted? wants comparable
  · exact ⟨found, Settings.found?_of_stored reads held read, meets⟩

/-- After a plan, of a kind that is not wanted nothing is found. -/
theorem found?_apply_of_unwanted (planned : Planned cluster.reader probe declaration plan)
    (coherent : cluster.reader.Coherent) {kind : Kind}
    (unwanted : plan.settings.wanted? kind = none) :
    plan.settings.found? plan.capabilities (plan.apply cluster).reader kind = none := by
  cases reads : plan.settings.isRead plan.capabilities kind with
  | true =>
    have absent := planned.get?_apply_of_unwanted coherent unwanted reads
    exact Settings.found?_of_absent (congrArg Except.ok absent)
  | false => simp [Settings.found?, Settings.request?, reads]

/-- After a plan there is a plan again, which keeps what is wanted. -/
theorem exists_next (planned : Planned cluster.reader probe declaration plan)
    (coherent : cluster.reader.Coherent)
    (comparable : ∀ quantity ∈ plan.settings.quantities, Quantity.equal quantity quantity = true) :
    ∃ next, Planned (plan.apply cluster).reader probe declaration next ∧
      next.verdicts = Kind.planning.filterMap fun kind =>
        (plan.settings.wanted? kind).map fun wanted => ⟨kind, wanted.name, .keep⟩ := by
  have again := planned.reread (planned.answered_apply coherent)
  refine ⟨_, again, ?_⟩
  rw [again.verdicts_eq (plan.coherent_apply coherent)]
  refine List.filterMap_congr fun kind _ => ?_
  simp only [Plan.settings_reread, Plan.capabilities_reread, Plan.registry_reread]
  cases wants : plan.settings.wanted? kind with
  | some wanted =>
    obtain ⟨found, finds, meets⟩ := planned.exists_found?_apply coherent wants
      fun quantity inside => comparable quantity (Settings.mem_quantities_of_wanted? wants inside)
    simp [finds, Registry.verdict?, meets]
  | none =>
    rw [planned.found?_apply_of_unwanted coherent wants]
    rfl

/-- A plan requires as many objects as there are kinds of which one is wanted. -/
theorem size_required {reader : Reader} (planned : Planned reader probe declaration plan) :
    plan.required.size = (Kind.planning.filterMap plan.settings.wanted?).length := by
  have reordered : Kind.all.Perm Kind.planning := by decide
  rw [ResourceSet.size_eq, planned.toList_required]
  exact (reordered.filterMap plan.settings.wanted?).length_eq

/-- Everything that a plan requires belongs to the namespace of its instance. -/
theorem namespaceName_of_required {reader : Reader}
    (planned : Planned reader probe declaration plan) {object : Resource}
    (requires : object ∈ plan.required.toList) : object.namespaceName = plan.namespaceName := by
  rw [← planned.namespaceName_eq]
  exact congrArg Key.namespaceName (Settings.place_of_wanted? (planned.mem_required_iff.1 requires))

end Planned

/-- On every coherent cluster one plan is enough: when it is carried out, which writes the objects
that are wanted at their own places, the next pass gives a plan that has as many verdicts as there
are objects wanted, and keeps all of them. The quantities of the settings must be equal to
themselves, which those beyond the format are not. -/
theorem apply_converges {cluster : Cluster} {capabilities : Capabilities} {declaration : Instance}
    {plan : Plan} (coherent : cluster.reader.Coherent)
    (planned : (declaration.plan cluster.reader (.ok capabilities)).result = .ok plan)
    (comparable : ∀ quantity ∈ plan.settings.quantities,
      Quantity.equal quantity quantity = true) :
    (∀ object ∈ plan.required.toList, object.namespaceName = plan.namespaceName) ∧
      ∃ next,
        (declaration.plan (plan.apply cluster).reader (.ok capabilities)).result = .ok next ∧
        next.verdicts.length = plan.required.size ∧
        ∀ verdict ∈ next.verdicts, verdict.action = .keep := by
  have planned := planned_iff.1 planned
  obtain ⟨next, again, verdicts⟩ := planned.exists_next coherent comparable
  refine ⟨fun object => planned.namespaceName_of_required, next, planned_iff.2 again, ?_, ?_⟩
  · have kept : next.verdicts = (Kind.planning.filterMap plan.settings.wanted?).map
        fun wanted => ⟨wanted.kind, wanted.name, .keep⟩ := by
      rw [verdicts, List.map_filterMap]
      refine List.filterMap_congr fun kind _ => ?_
      cases wants : plan.settings.wanted? kind with
      | none => rfl
      | some wanted => simp [Settings.kind_of_wanted? wants]
    rw [kept, List.length_map, planned.size_required]
  · intro verdict inside
    rw [verdicts] at inside
    obtain ⟨kind, _, judged⟩ := List.mem_filterMap.1 inside
    obtain ⟨_, _, rfl⟩ := Option.map_eq_some_iff.1 judged
    rfl

/-- The deployment of an instance that ran two pods. -/
def oldDeployment : Resource :=
  .deployment (Settings.normalize "nexus3" "tools" { InstanceSpec.blank with replicas := 2 }
    ⟨true, false, false⟩).deployment

/-- A cluster that holds the old deployment. -/
def oldDeploymentCluster : Cluster :=
  Cluster.empty.put ⟨.deployment, "tools", "nexus3"⟩ oldDeployment.encode

/-- A plan for one pod converges where two pods ran. -/
theorem apply_converges_of_oldDeployment :
    ∃ plan next,
      ((Instance.of (some "nexus3") (some "tools") .blank).plan oldDeploymentCluster.reader
        (.ok ⟨true, false, false⟩)).result = .ok plan ∧
      ((Instance.of (some "nexus3") (some "tools") .blank).plan
        (plan.apply oldDeploymentCluster).reader (.ok ⟨true, false, false⟩)).result = .ok next ∧
      ∀ verdict ∈ next.verdicts, verdict.action = .keep := by
  obtain ⟨plan, planned⟩ : ∃ plan,
      ((Instance.of (some "nexus3") (some "tools") .blank).plan oldDeploymentCluster.reader
        (.ok ⟨true, false, false⟩)).result = .ok plan := ⟨_, rfl⟩
  have coherent : oldDeploymentCluster.reader.Coherent :=
    Cluster.coherent_put Cluster.coherent_empty oldDeployment "tools"
  have quantities : plan.settings.quantities = ["1", "2Gi", "2", "2Gi", "10Gi"] := by
    rw [(planned_iff.1 planned).settings_eq]
    rfl
  have comparable : ∀ quantity ∈ plan.settings.quantities,
      Quantity.equal quantity quantity = true := by
    rw [quantities]
    decide +kernel
  obtain ⟨_, next, again, _, keeps⟩ := apply_converges coherent planned comparable
  exact ⟨plan, next, planned, again, keeps⟩

end Instance

end Converge
