import Converge.Proofs.Plan.Deletion
import Mathlib.Data.List.Nodup

/-!
# What a plan requires fits together

The objects of an instance refer to each other by names, labels and ports, and each facet writes
the references of its own objects without looking at those of the others.
`ResourceSet.Linked` says that no reference leads nowhere: the pods are found by both selectors,
run as the account that is required, hold the claim that is required, and listen on every port that
a service, a probe, a route or an ingress sends requests to.
`Instance.required_linked` is that whatever a plan requires is linked so, and bears the labels and
the namespace of its instance.
-/

namespace Converge

/-- A container listens on the port that is referred to. -/
def Container.Listens (container : Container) : PortReference → Prop
  | .number value => ∃ port ∈ container.ports, port.containerPort = value
  | .name text => ∃ port ∈ container.ports, port.name = some text

/-- A container is asked for its state, on a port that it listens on. -/
def Container.Answers (container : Container) (asked : Option Probe) : Prop :=
  ∃ probe check, asked = some probe ∧ probe.httpGet = some check ∧ container.Listens check.port

/-- A route leads to a port of a service. -/
def Route.LeadsTo (route : Route) (service : Service) : Prop :=
  route.spec.target.kind = Kind.service.name ∧ route.spec.target.name = service.metadata.name ∧
    ∃ port ∈ service.spec.ports, route.spec.port = some ⟨.number port.port⟩

/-- What is behind a path is a port of a service. -/
def Backend.LeadsTo (backend : Backend) (service : Service) : Prop :=
  ∃ port ∈ service.spec.ports,
    backend.service = some ⟨service.metadata.name, ⟨some port.port, none⟩⟩

/-- Every path of an ingress leads to a port of a service. -/
def Ingress.LeadsTo (ingress : Ingress) (service : Service) : Prop :=
  ∀ rule ∈ ingress.spec.rules, ∀ paths ∈ rule.http, ∀ path ∈ paths.paths,
    path.backend.LeadsTo service

/-- An object bears the labels of an instance and is in its namespace. -/
structure Resource.BelongsTo (object : Resource) (owner space : String) : Prop where
  space_eq : object.namespaceName = space
  managed : object.metadata.labels.get? "app.kubernetes.io/managed-by" = some "nexus-operator"
  owned : object.metadata.labels.get? "app.kubernetes.io/name" = some owner

/-- Objects are linked around the one deployment, the one service and the one account among them:
whatever they refer to is there. -/
structure ResourceSet.Linked (set : ResourceSet) (deployment : Deployment) (service : Service)
    (account : ServiceAccount) (container : Container) : Prop where
  deployments : set.ofKind .deployment = [.deployment deployment]
  services : set.ofKind .service = [.service service]
  accounts : set.ofKind .serviceAccount = [.serviceAccount account]
  containers : deployment.spec.template.spec.containers = [container]
  /-- The deployment finds its own pods. -/
  keeps : deployment.spec.selector.matchLabels.isSubsetOf
    deployment.spec.template.metadata.labels = true
  /-- The service finds the pods of the deployment. -/
  serves : service.spec.selector.isSubsetOf deployment.spec.template.metadata.labels = true
  runsAs : deployment.spec.template.spec.serviceAccountName = some account.metadata.name
  /-- There is a volume exactly when a claim is required. -/
  holds : deployment.spec.template.spec.volumes ≠ [] ↔
    ∃ claim, Resource.volumeClaim claim ∈ set.toList
  /-- Every volume names a claim that is required. -/
  claims : ∀ volume ∈ deployment.spec.template.spec.volumes,
    ∃ claim, Resource.volumeClaim claim ∈ set.toList ∧ volume.claim = some ⟨claim.metadata.name⟩
  /-- What is mounted are the volumes. -/
  mounts : container.volumeMounts.map (·.name) =
    deployment.spec.template.spec.volumes.map (·.name)
  offers : service.spec.ports ≠ []
  /-- The service sends requests to ports of the container. -/
  targets : ∀ port ∈ service.spec.ports,
    ∃ target, port.targetPort = some target ∧ container.Listens target
  liveness : container.Answers container.livenessProbe
  readiness : container.Answers container.readinessProbe
  routes : ∀ route, Resource.route route ∈ set.toList → route.LeadsTo service
  ingresses : ∀ ingress, Resource.ingress ingress ∈ set.toList → ingress.LeadsTo service

/-! ## Labels -/

namespace Metadata

/-- The labels that the pods are found by are among those that they bear. -/
theorem selectorLabels_isSubsetOf (owner : String) :
    (selectorLabels owner).isSubsetOf (instanceLabels owner) = true := by
  rw [Dict.isSubsetOf_iff]
  intro key value found
  have app : key = "app" := by
    unfold selectorLabels at found
    rw [Dict.get?_insert] at found
    split at found
    · assumption
    · cases found
  subst app
  rw [instanceLabels, Dict.get?_insert, Dict.get?_insert, if_neg (by decide), if_neg (by decide)]
  exact found

end Metadata

/-- Whatever settings want belongs to their instance. -/
theorem Settings.belongsTo_of_wanted? {settings : Settings} {kind : Kind} {object : Resource}
    (wanted : settings.wanted? kind = some object) :
    object.BelongsTo settings.name settings.namespaceName := by
  have labels := labels_of_wanted? wanted
  refine ⟨congrArg Key.namespaceName (place_of_wanted? wanted), ?_, ?_⟩
  · rw [labels, Metadata.instanceLabels, Dict.get?_insert, if_pos rfl]
  · rw [labels, Metadata.instanceLabels, Dict.get?_insert, if_neg (by decide), Dict.get?_insert,
      if_pos rfl]

/-! ## Volumes and ports -/

namespace Settings

variable (settings : Settings)

/-- The volume of the pods of an instance, if it has one. -/
theorem volumes_deployment :
    settings.deployment.spec.template.spec.volumes =
      if settings.persistence.persistent then
        [⟨dataVolumeName settings.name, some ⟨settings.name⟩⟩]
      else [] := rfl

/-- The container mounts the volumes of its pod. -/
theorem names_volumeMounts :
    settings.container.volumeMounts.map (·.name) =
      settings.deployment.spec.template.spec.volumes.map (·.name) := by
  rw [volumes_deployment, container]
  split <;> rfl

/-- The container listens on the port of the server. -/
theorem listens_serverPort : settings.container.Listens (.number serverPort) :=
  ⟨_, List.mem_singleton_self _, rfl⟩

/-- The service finds the pods of its instance, and its only port is that of the server. -/
theorem service_ports :
    settings.service.spec.selector = Metadata.selectorLabels settings.name ∧
      ∃ port, settings.service.spec.ports = [port] ∧ port.port = serverPort ∧
        port.targetPort = some (.number serverPort) := by
  unfold service Service.withNodePort
  dsimp only
  split
  · exact ⟨rfl, _, rfl, rfl, rfl⟩
  · exact ⟨rfl, _, rfl, rfl, rfl⟩

/-- The service bears the name of its instance. -/
theorem name_service : settings.service.metadata.name = settings.name := by
  have wanted : settings.wanted? .service = some (.service settings.service) := rfl
  exact name_of_wanted? wanted

/-- The route of an instance leads to its service, with and without encryption. -/
theorem route_leadsTo (host : String) : (settings.route host).LeadsTo settings.service := by
  obtain ⟨_, port, ports, number, _⟩ := settings.service_ports
  have only : port ∈ settings.service.spec.ports := by simp [ports]
  rw [Route.LeadsTo, name_service]
  unfold route
  dsimp only
  split
  · exact ⟨rfl, rfl, port, only, by rw [number]; rfl⟩
  · exact ⟨rfl, rfl, port, only, by rw [number]; rfl⟩

/-- Every path of the ingress of an instance leads to its service. -/
theorem ingress_leadsTo (host : String) : (settings.ingress host).LeadsTo settings.service := by
  obtain ⟨_, port, ports, number, _⟩ := settings.service_ports
  have only : port ∈ settings.service.spec.ports := by simp [ports]
  intro rule ruled paths pathed path listed
  rw [rules_ingress] at ruled
  cases List.mem_singleton.1 ruled
  cases pathed
  cases List.mem_singleton.1 listed
  exact ⟨port, only, by rw [number, name_service]⟩

end Settings

namespace Instance

namespace Planned

variable {reader : Reader} {probe : Except Failure Capabilities} {declaration : Instance}
  {plan : Plan}

/-- No two objects that a plan requires have the same kind and name. -/
theorem nodup_kind_name (planned : Planned reader probe declaration plan) :
    (plan.required.toList.map fun object => (object.kind, object.name)).Nodup := by
  have kinds : Kind.all.Nodup := by decide
  have objects : plan.required.toList.Nodup := by
    rw [planned.toList_required]
    refine List.Nodup.filterMap (fun kind other object here there => ?_) kinds
    exact (Settings.kind_of_wanted? here).symm.trans (Settings.kind_of_wanted? there)
  refine List.Nodup.map_on (fun object inside other among same => ?_) objects
  -- There is only one object of each kind, so the name is not needed.
  have kinds : object.kind = other.kind := congrArg Prod.fst same
  have wanted := planned.mem_required_iff.1 inside
  have wanted' := planned.mem_required_iff.1 among
  rw [kinds] at wanted
  exact Option.some.inj (wanted.symm.trans wanted')

/-- A claim is required exactly with persistence, and it is the one of the settings. -/
theorem claim_mem_required_iff (planned : Planned reader probe declaration plan)
    {claim : VolumeClaim} :
    Resource.volumeClaim claim ∈ plan.required.toList ↔
      plan.settings.persistence.persistent = true ∧ plan.settings.volumeClaim = claim := by
  rw [planned.mem_required_iff, Resource.kind, Settings.wanted?]
  split
  · next persistent => simp [persistent]
  · next ephemeral => simp [ephemeral]

/-- A route that is required is the one of the settings, to some host. -/
theorem route_of_mem_required (planned : Planned reader probe declaration plan) {route : Route}
    (inside : Resource.route route ∈ plan.required.toList) :
    ∃ host, plan.settings.route host = route := by
  have wanted := planned.mem_required_iff.1 inside
  rw [Resource.kind, Settings.wanted?] at wanted
  split at wanted
  · obtain ⟨host, _, same⟩ := Option.map_eq_some_iff.1 wanted
    exact ⟨host, Resource.route.inj same⟩
  · cases wanted

/-- An ingress that is required is the one of the settings, from some host. -/
theorem ingress_of_mem_required (planned : Planned reader probe declaration plan)
    {ingress : Ingress} (inside : Resource.ingress ingress ∈ plan.required.toList) :
    ∃ host, plan.settings.ingress host = ingress := by
  have wanted := planned.mem_required_iff.1 inside
  rw [Resource.kind, Settings.wanted?] at wanted
  split at wanted
  · obtain ⟨host, _, same⟩ := Option.map_eq_some_iff.1 wanted
    exact ⟨host, Resource.ingress.inj same⟩
  · cases wanted

/-- The volumes of the pods are backed by the claim that is required, if there is one. -/
theorem volumes_backed (planned : Planned reader probe declaration plan) :
    (plan.settings.deployment.spec.template.spec.volumes ≠ [] ↔
        ∃ claim, Resource.volumeClaim claim ∈ plan.required.toList) ∧
      ∀ volume ∈ plan.settings.deployment.spec.template.spec.volumes,
        ∃ claim, Resource.volumeClaim claim ∈ plan.required.toList ∧
          volume.claim = some ⟨claim.metadata.name⟩ := by
  simp only [planned.claim_mem_required_iff, Settings.volumes_deployment]
  cases plan.settings.persistence.persistent with
  | false => simp
  | true =>
    refine ⟨by simp, fun volume inside => ?_⟩
    cases List.mem_singleton.1 inside
    exact ⟨_, ⟨rfl, rfl⟩, rfl⟩

/-- Around the deployment, the service and the account of its settings, all that a plan requires is
linked. -/
theorem linked (planned : Planned reader probe declaration plan) :
    plan.required.Linked plan.settings.deployment plan.settings.service
      plan.settings.serviceAccount plan.settings.container := by
  obtain ⟨selector, port, ports, number, target⟩ := plan.settings.service_ports
  have found := Metadata.selectorLabels_isSubsetOf plan.settings.name
  have listens := plan.settings.listens_serverPort
  exact {
    deployments := planned.ofKind_required .deployment
    services := planned.ofKind_required .service
    accounts := planned.ofKind_required .serviceAccount
    containers := rfl
    keeps := found
    serves := by
      rw [selector]
      exact found
    runsAs := rfl
    holds := planned.volumes_backed.1
    claims := planned.volumes_backed.2
    mounts := plan.settings.names_volumeMounts
    offers := by simp [ports]
    targets := by
      intro other inside
      rw [ports] at inside
      cases List.mem_singleton.1 inside
      exact ⟨_, target, listens⟩
    liveness := ⟨_, _, rfl, rfl, listens⟩
    readiness := ⟨_, _, rfl, rfl, listens⟩
    routes := by
      intro route inside
      obtain ⟨host, rfl⟩ := planned.route_of_mem_required inside
      exact plan.settings.route_leadsTo host
    ingresses := by
      intro ingress inside
      obtain ⟨host, rfl⟩ := planned.ingress_of_mem_required inside
      exact plan.settings.ingress_leadsTo host }

end Planned

/-- Whatever a plan requires belongs to the instance and is there once, and no reference among it
leads nowhere. -/
theorem required_linked {reader : Reader} {capabilities : Capabilities} {declaration : Instance}
    {plan : Plan} (planned : (declaration.plan reader (.ok capabilities)).result = .ok plan) :
    (declaration.metadata.name = some plan.owner ∧
        declaration.metadata.namespaceName = some plan.namespaceName) ∧
      (∀ object ∈ plan.required.toList, object.BelongsTo plan.owner plan.namespaceName) ∧
      (plan.required.toList.map fun object => (object.kind, object.name)).Nodup ∧
      ∃ deployment service account container,
        plan.required.Linked deployment service account container := by
  have planned := planned_iff.1 planned
  refine ⟨metadata_of_identity planned.identity_eq, ?_, planned.nodup_kind_name, _, _, _, _,
    planned.linked⟩
  intro object inside
  rw [← planned.name_eq, ← planned.namespaceName_eq]
  exact Settings.belongsTo_of_wanted? (planned.mem_required_iff.1 inside)

/-- An instance that keeps its data, runs as an account of another name and is reached by a
route. -/
def routedInstance : Instance :=
  .of (some "nexus3") (some "tools")
    { InstanceSpec.blank with
      persistence := some ⟨true, none, none⟩
      networking := some ⟨true, some .route, some "nexus.example.com", none, none⟩
      serviceAccountName := some "runner" }

/-- The claim and the route that such an instance requires are linked with the rest. -/
theorem required_linked_of_routedInstance :
    ∃ plan claim route,
      (routedInstance.plan Cluster.empty.reader (.ok ⟨true, false, true⟩)).result = .ok plan ∧
      Resource.volumeClaim claim ∈ plan.required.toList ∧
      Resource.route route ∈ plan.required.toList ∧
      ∃ deployment service account container,
        plan.required.Linked deployment service account container := by
  obtain ⟨plan, planned⟩ : ∃ plan,
      (routedInstance.plan Cluster.empty.reader (.ok ⟨true, false, true⟩)).result = .ok plan :=
    ⟨_, rfl⟩
  have steps := planned_iff.1 planned
  have claimed : plan.settings.wanted? .volumeClaim =
      some (.volumeClaim plan.settings.volumeClaim) := by
    rw [steps.settings_eq]
    rfl
  have routed : plan.settings.wanted? .route =
      some (.route (plan.settings.route "nexus.example.com")) := by
    rw [steps.settings_eq]
    rfl
  obtain ⟨_, _, _, linked⟩ := required_linked planned
  exact ⟨plan, _, _, planned, steps.mem_required_iff.2 claimed, steps.mem_required_iff.2 routed,
    linked⟩

end Instance

end Converge
