import Converge.Proofs.Plan.Cluster

/-!
# What a plan deletes

A plan deletes what is found and no longer wanted. Every object that is read is wanted as well, with
the exception of routes and ingresses, which are looked for wherever the cluster serves them. So
only a route or an ingress that is left behind by an earlier exposure is ever deleted, and claims,
which hold data, never are.
-/

namespace Converge

/-- The verdicts on a kind are about objects of the kind. -/
theorem Registry.kind_of_mem_verdictsOfKind {registry : Registry} {required deployed : ResourceSet}
    {kind : Kind} {verdict : Verdict}
    (inside : verdict ∈ registry.verdictsOfKind required deployed kind) : verdict.kind = kind := by
  unfold verdictsOfKind at inside
  rcases List.mem_append.1 inside with wanted | found
  · obtain ⟨_, _, rfl⟩ := List.mem_map.1 wanted
    rfl
  · obtain ⟨_, _, rfl⟩ := List.mem_map.1 found
    rfl

/-- Only an object that is found and not wanted is deleted. -/
theorem Registry.verdict?_eq_delete_iff {registry : Registry} {kind : Kind}
    {wanted? found? : Option Resource} {verdict : Verdict} :
    registry.verdict? kind wanted? found? = some verdict ∧ verdict.action = .delete ↔
      wanted? = none ∧ ∃ found, found? = some found ∧ verdict = ⟨kind, found.name, .delete⟩ := by
  constructor
  · rintro ⟨judged, deletes⟩
    cases wanted? with
    | none =>
      cases found? with
      | none => cases judged
      | some found =>
        cases judged
        exact ⟨rfl, found, rfl, rfl⟩
    | some wanted =>
      cases found? with
      | none =>
        cases judged
        cases deletes
      | some found =>
        cases judged
        dsimp only at deletes
        split at deletes <;> cases deletes
  · rintro ⟨rfl, found, rfl, rfl⟩
    exact ⟨rfl, rfl⟩

/-- The kind of the object that brings an exposure about. -/
def Exposure.kind? : Exposure → Option Kind
  | nodePort => none
  | route => some .route
  | ingress => some .ingress

/-- Of attainable settings, the object that brings an exposure about is wanted exactly when the
exposure is the chosen one. -/
theorem Settings.wanted?_eq_none_iff {settings : Settings} {capabilities : Capabilities}
    (attainable : settings.Attainable capabilities) {exposure : Exposure} {kind : Kind}
    (brings : exposure.kind? = some kind) :
    settings.wanted? kind = none ↔ settings.exposure ≠ some exposure := by
  unfold Attainable at attainable
  cases exposure <;> cases brings
  all_goals
    simp only [wanted?]
    split
    · next chosen =>
      simp only [chosen] at attainable
      obtain ⟨_, host, configured⟩ := attainable
      simp [configured, chosen]
    · next other => simp [other]

namespace Instance

namespace Planned

variable {reader : Reader} {probe : Except Failure Capabilities} {declaration : Instance}
  {plan : Plan}

/-- On a coherent cluster a plan deletes exactly what is found and not wanted. -/
theorem mem_verdicts_delete_iff (planned : Planned reader probe declaration plan)
    (coherent : reader.Coherent) (kind : Kind) (name : String) :
    ⟨kind, name, .delete⟩ ∈ plan.verdicts ↔
      plan.settings.wanted? kind = none ∧
        plan.settings.isRead plan.capabilities kind = true ∧
        reader.Holds (plan.settings.place kind) ∧ name = plan.settings.nameOf kind := by
  rw [planned.verdicts_eq coherent, List.mem_filterMap]
  constructor
  · rintro ⟨kind', _, judged⟩
    obtain ⟨unwanted, found, finds, same⟩ := Registry.verdict?_eq_delete_iff.1 ⟨judged, rfl⟩
    cases same
    obtain ⟨reads, held⟩ := (planned.exists_found?_iff kind).1 ⟨found, finds⟩
    exact ⟨unwanted, reads, held, Settings.name_of_found? coherent finds⟩
  · rintro ⟨unwanted, reads, held, rfl⟩
    obtain ⟨found, finds⟩ := (planned.exists_found?_iff kind).2 ⟨reads, held⟩
    refine ⟨kind, kind.mem_planning, ?_⟩
    rw [← Settings.name_of_found? coherent finds]
    exact (Registry.verdict?_eq_delete_iff.2 ⟨unwanted, found, finds, rfl⟩).1

/-- Without persistence there is no verdict on claims, whatever the cluster holds. -/
theorem no_claim_verdict (planned : Planned reader probe declaration plan)
    (ephemeral : plan.settings.persistence.persistent = false) :
    ∀ verdict ∈ plan.verdicts, verdict.kind ≠ .volumeClaim := by
  intro verdict inside claims
  obtain ⟨kind, _, judged⟩ := List.mem_flatMap.1 inside
  have same : kind = .volumeClaim := (Registry.kind_of_mem_verdictsOfKind judged).symm.trans claims
  subst same
  have none_wanted : plan.required.ofKind .volumeClaim = [] := by
    rw [planned.ofKind_required, Settings.wanted?, ephemeral]
    rfl
  have none_found : plan.deployed.ofKind .volumeClaim = [] := by
    rw [planned.ofKind_deployed, Settings.found?, Settings.request?, Settings.isRead, ephemeral]
    rfl
  simp [Registry.verdictsOfKind, none_wanted, none_found] at judged

/-- On a coherent cluster a plan deletes exactly the routes and ingresses that are left behind. -/
theorem mem_verdicts_delete_iff_stale (planned : Planned reader probe declaration plan)
    (coherent : reader.Coherent) (kind : Kind) (name : String) :
    ⟨kind, name, .delete⟩ ∈ plan.verdicts ↔
      ∃ exposure : Exposure, exposure.kind? = some kind ∧ plan.settings.exposure ≠ some exposure ∧
        plan.settings.isRead plan.capabilities kind = true ∧
        reader.Holds ⟨kind, plan.namespaceName, name⟩ ∧ name = plan.owner := by
  have space := planned.namespaceName_eq
  have named : ∀ exposure : Exposure, exposure.kind? = some kind →
      plan.settings.nameOf kind = plan.owner := by
    intro exposure brings
    rw [← planned.name_eq]
    cases exposure <;> cases brings <;> rfl
  rw [planned.mem_verdicts_delete_iff coherent]
  constructor
  · rintro ⟨unwanted, reads, held, rfl⟩
    -- Every other kind is wanted wherever it is read.
    have brought : ∃ exposure : Exposure, exposure.kind? = some kind := by
      cases kind with
      | route => exact ⟨.route, rfl⟩
      | ingress => exact ⟨.ingress, rfl⟩
      | volumeClaim => simp_all [Settings.wanted?, Settings.isRead]
      | deployment | service | serviceAccount => simp [Settings.wanted?] at unwanted
    obtain ⟨exposure, brings⟩ := brought
    have other := (Settings.wanted?_eq_none_iff planned.attainable brings).1 unwanted
    refine ⟨exposure, brings, other, reads, ?_, named exposure brings⟩
    rw [← space]
    exact held
  · rintro ⟨exposure, brings, other, reads, held, rfl⟩
    have unwanted := (Settings.wanted?_eq_none_iff planned.attainable brings).2 other
    refine ⟨unwanted, reads, ?_, (named exposure brings).symm⟩
    rw [Settings.place, named exposure brings, space]
    exact held

end Planned

/-- A plan deletes exactly the objects of exposure that are left behind: a route of the instance
that the cluster serves and holds although the instance is not exposed by a route, and likewise an
ingress. So no claim, deployment, service or service account is ever deleted, and without
persistence there is no verdict on claims, whatever the cluster holds. -/
theorem deletes_stale_exposure_only {reader : Reader} {capabilities : Capabilities}
    {declaration : Instance} {plan : Plan}
    (planned : (declaration.plan reader (.ok capabilities)).result = .ok plan) :
    (plan.settings.persistence.persistent = false →
        ∀ verdict ∈ plan.verdicts, verdict.kind ≠ .volumeClaim) ∧
      (reader.Coherent →
        (∀ kind name, ⟨kind, name, .delete⟩ ∈ plan.verdicts ↔
          declaration.metadata.name = some name ∧
            ∃ space, declaration.metadata.namespaceName = some space ∧
              (kind = .route ∧ capabilities.routes = true ∧
                  reader.Holds ⟨.route, space, name⟩ ∧ plan.settings.exposure ≠ some .route ∨
                kind = .ingress ∧ capabilities.ingress = true ∧
                  reader.Holds ⟨.ingress, space, name⟩ ∧
                  plan.settings.exposure ≠ some .ingress)) ∧
        ∀ verdict ∈ plan.verdicts, verdict.action = .delete →
          verdict.kind ≠ .volumeClaim ∧ verdict.kind ≠ .deployment ∧ verdict.kind ≠ .service ∧
            verdict.kind ≠ .serviceAccount) := by
  have planned := planned_iff.1 planned
  have told : capabilities = plan.capabilities := Except.ok.inj planned.probe_eq
  obtain ⟨named, placed⟩ := metadata_of_identity planned.identity_eq
  refine ⟨planned.no_claim_verdict, fun coherent => ⟨fun kind name => ?_, ?_⟩⟩
  · rw [planned.mem_verdicts_delete_iff_stale coherent, named, placed, told]
    constructor
    · rintro ⟨exposure, brings, other, reads, held, rfl⟩
      refine ⟨rfl, plan.namespaceName, rfl, ?_⟩
      cases exposure <;> cases brings
      · exact .inl ⟨rfl, reads, held, other⟩
      · exact .inr ⟨rfl, reads, held, other⟩
    · rintro ⟨owned, space, spaced, stale⟩
      cases owned
      cases spaced
      rcases stale with ⟨rfl, reads, held, other⟩ | ⟨rfl, reads, held, other⟩
      · exact ⟨.route, rfl, other, reads, held, rfl⟩
      · exact ⟨.ingress, rfl, other, reads, held, rfl⟩
  · rintro ⟨kind, name, action⟩ inside rfl
    obtain ⟨exposure, brings, _⟩ :=
      (planned.mem_verdicts_delete_iff_stale coherent kind name).1 inside
    cases exposure <;> cases brings <;> simp

/-- A route to an instance at an old host. -/
def oldRoute : Resource :=
  .route (.of (.ofInstance "nexus3" "tools")
    ⟨some "old.example.com", ⟨"Service", "nexus3", none⟩, none, none⟩)

/-- A cluster that holds the old route. -/
def oldRouteCluster : Cluster :=
  Cluster.empty.put ⟨.route, "tools", "nexus3"⟩ oldRoute.encode

/-- The old route is deleted when its instance is not exposed any more. -/
theorem old_route_deleted :
    ∃ plan,
      ((Instance.of (some "nexus3") (some "tools") .blank).plan oldRouteCluster.reader
        (.ok ⟨true, false, false⟩)).result = .ok plan ∧
      ⟨.route, "nexus3", .delete⟩ ∈ plan.verdicts := by
  obtain ⟨plan, planned⟩ : ∃ plan,
      ((Instance.of (some "nexus3") (some "tools") .blank).plan oldRouteCluster.reader
        (.ok ⟨true, false, false⟩)).result = .ok plan := ⟨_, rfl⟩
  have coherent : oldRouteCluster.reader.Coherent :=
    Cluster.coherent_put Cluster.coherent_empty oldRoute "tools"
  have hidden : plan.settings.exposure = none := by
    rw [(planned_iff.1 planned).settings_eq]
    rfl
  obtain ⟨deleted, _⟩ := (deletes_stale_exposure_only planned).2 coherent
  refine ⟨plan, planned, (deleted .route "nexus3").2 ⟨rfl, "tools", rfl, .inl ?_⟩⟩
  exact ⟨rfl, rfl, ⟨_, rfl⟩, by simp [hidden]⟩

end Instance

end Converge
