import Converge.Proofs.Plan.Deletion

/-!
# One way to be reached

The way in which an instance is reached is decided when its settings are made, and carried out by
two facets that do not know of each other: the service takes the port of the nodes, and the route or
the ingress is required beside it. `ResourceSet.Realises` says for each way what the required
objects have in common then, in terms of what the user asks for. A plan realises the way that its
settings select, and no other one (`Instance.realises_selected_exposure`): what cannot be had, such
as a way without its host or its port, never becomes a plan.
-/

namespace Converge

/-- What a user asks for of the way to an instance. -/
def InstanceSpec.asked (spec : InstanceSpec) : NetworkingSpec := spec.networking.getD .blank

/-- A service is of a type, and the nodes have the same port, or none, for each of its ports. -/
structure Service.IsReachedBy (service : Service) (type : String) (number : Option Int32) :
    Prop where
  type_eq : service.spec.type = some type
  offers : service.spec.ports ≠ []
  nodePort_eq : ∀ port ∈ service.spec.ports, port.nodePort = number

/-- A service is reached inside the cluster only. -/
abbrev Service.IsInside (service : Service) : Prop :=
  service.IsReachedBy ServiceSpec.clusterAddress none

/-- A route starts at the host that is asked for, and is encrypted exactly if that is mandatory. -/
structure Route.Opens (route : Route) (asked : NetworkingSpec) : Prop where
  host_eq : ∃ host, asked.host = some host ∧ host ≠ "" ∧ route.spec.host = some host
  tls_eq : route.spec.tls =
    if (asked.tls.getD .blank).mandatory then some ⟨RouteTls.edge, some RouteTls.redirect⟩ else none

/-- An ingress has rules, all of them for the host that is asked for, and is encrypted exactly if a
secret is named. -/
structure Ingress.Opens (ingress : Ingress) (asked : NetworkingSpec) : Prop where
  offers : ingress.spec.rules ≠ []
  host_eq : ∃ host, asked.host = some host ∧ host ≠ "" ∧
    ∀ rule ∈ ingress.spec.rules, rule.host = some host
  tls_eq : ingress.spec.tls =
    match (asked.tls.getD .blank).secretName with
    | some secret => [⟨asked.host.toList, some secret⟩]
    | none => []

/-- Required objects realise a way to be reached, or that there is none, around a service. -/
def ResourceSet.Realises (set : ResourceSet) (asked : NetworkingSpec) (capabilities : Capabilities)
    (service : Service) : Option Exposure → Prop
  | none => set.ofKind .route = [] ∧ set.ofKind .ingress = [] ∧ service.IsInside
  | some .nodePort =>
    set.ofKind .route = [] ∧ set.ofKind .ingress = [] ∧
      ∃ number, asked.nodePort = some number ∧ 0 < number ∧
        service.IsReachedBy ServiceSpec.nodePort (some number)
  | some .route =>
    (∃ route, set.ofKind .route = [.route route] ∧ route.Opens asked) ∧
      set.ofKind .ingress = [] ∧ capabilities.routes = true ∧ service.IsInside
  | some .ingress =>
    (∃ ingress, set.ofKind .ingress = [.ingress ingress] ∧ ingress.Opens asked) ∧
      set.ofKind .route = [] ∧ capabilities.ingress = true ∧ service.IsInside

/-! ## The service -/

/-- A service is left as it is unless its instance is reached by a port of the nodes. -/
theorem Service.withNodePort_eq_self {networking : Networking}
    (hidden : networking.exposure ≠ some .nodePort) (service : Service) :
    service.withNodePort networking = service := if_neg hidden

/-- All ports of a service are on the nodes if its instance is reached so. -/
theorem Service.withNodePort_isReachedBy {networking : Networking}
    (exposed : networking.exposure = some .nodePort) {service : Service}
    (offers : service.spec.ports ≠ []) :
    (service.withNodePort networking).IsReachedBy ServiceSpec.nodePort
      (some networking.nodePort) := by
  unfold withNodePort
  rw [if_pos exposed]
  refine ⟨rfl, by simpa using offers, fun port inside => ?_⟩
  obtain ⟨_, _, rfl⟩ := List.mem_map.1 inside
  rfl

namespace Settings

variable {settings : Settings}

theorem service_isInside (hidden : settings.exposure ≠ some .nodePort) :
    settings.service.IsInside := by
  unfold service
  dsimp only
  rw [Service.withNodePort_eq_self hidden]
  refine ⟨rfl, List.cons_ne_nil _ _, fun port inside => ?_⟩
  cases List.mem_singleton.1 inside
  rfl

theorem service_isReachedBy_nodePort (exposed : settings.exposure = some .nodePort) :
    settings.service.IsReachedBy ServiceSpec.nodePort (some settings.networking.nodePort) :=
  Service.withNodePort_isReachedBy exposed (List.cons_ne_nil _ _)

/-! ## What is asked for -/

/-- An instance is reached if that is asked for, and then in the way that is named or, if none is,
in the one that suits the cluster. -/
theorem exposure_normalizeNetworking (networking : Option NetworkingSpec)
    (capabilities : Capabilities) :
    (normalizeNetworking networking capabilities).exposure =
      if (networking.getD .blank).expose then
        some ((networking.getD .blank).exposeAs.getD (defaultExposure capabilities))
      else none := by
  rcases networking with _ | ⟨expose, exposeAs, _, _, _⟩
  · rfl
  · cases expose <;> cases exposeAs <;> rfl

section Asked

variable {spec : InstanceSpec} {capabilities : Capabilities}
  (settled : settings.networking = normalizeNetworking spec.networking capabilities)

include settled

/-- A host of the settings is the one that is asked for, and it is not empty. -/
theorem host_asked {host : String} (configured : settings.networking.host = some host) :
    spec.asked.host = some host ∧ host ≠ "" := by
  rw [settled] at configured
  exact nonEmpty_eq_some_iff.1 configured

/-- A positive port of the nodes is the one that is asked for. -/
theorem nodePort_asked (configured : 0 < settings.networking.nodePort) :
    spec.asked.nodePort = some settings.networking.nodePort := by
  have taken : settings.networking.nodePort = spec.asked.nodePort.getD 0 := by
    rw [settled]
    rfl
  rw [taken] at configured ⊢
  cases given : spec.asked.nodePort with
  | some _ => rfl
  | none =>
    rw [given] at configured
    exact absurd configured (by decide)

/-- The encryption of the settings is the one that is asked for. -/
theorem tls_asked : settings.networking.tls = spec.asked.tls.getD .blank := by
  rw [settled]
  rfl

/-- The route to the host of the settings is the one that is asked for. -/
theorem route_opens {host : String} (configured : settings.networking.host = some host) :
    (settings.route host).Opens spec.asked := by
  obtain ⟨given, filled⟩ := host_asked settled configured
  unfold route
  dsimp only
  rw [tls_asked settled]
  split
  · next mandatory => exact ⟨⟨host, given, filled, rfl⟩, (if_pos mandatory).symm⟩
  · next optional => exact ⟨⟨host, given, filled, rfl⟩, (if_neg optional).symm⟩

/-- The ingress from the host of the settings is the one that is asked for. -/
theorem ingress_opens {host : String} (configured : settings.networking.host = some host) :
    (settings.ingress host).Opens spec.asked := by
  obtain ⟨given, filled⟩ := host_asked settled configured
  have only : ∀ rule ∈ (settings.ingress host).spec.rules, rule.host = some host := by
    rw [rules_ingress]
    intro rule inside
    cases List.mem_singleton.1 inside
    rfl
  refine ⟨by rw [rules_ingress]; exact List.cons_ne_nil _ _, ⟨host, given, filled, only⟩, ?_⟩
  unfold ingress
  dsimp only
  rw [given, tls_asked settled]
  cases (spec.asked.tls.getD .blank).secretName <;> rfl

end Asked

end Settings

namespace Instance

namespace Planned

variable {reader : Reader} {probe : Except Failure Capabilities} {declaration : Instance}
  {plan : Plan}

/-- A plan's settings have the networking that is asked for. -/
theorem networking_eq (planned : Planned reader probe declaration plan) :
    plan.settings.networking =
      Settings.normalizeNetworking declaration.spec.networking plan.capabilities := by
  rw [planned.settings_eq]
  rfl

/-- Of the kind that brings another exposure about, a plan requires nothing. -/
theorem ofKind_eq_nil (planned : Planned reader probe declaration plan) (exposure : Exposure)
    {kind : Kind} (brings : exposure.kind? = some kind)
    (other : plan.settings.exposure ≠ some exposure) : plan.required.ofKind kind = [] := by
  rw [planned.ofKind_required, (Settings.wanted?_eq_none_iff planned.attainable brings).2 other]
  rfl

/-- Around its service, a plan realises the way that its settings select. -/
theorem realises (planned : Planned reader probe declaration plan) :
    plan.required.Realises declaration.spec.asked plan.capabilities plan.settings.service
      plan.settings.exposure := by
  have settled := planned.networking_eq
  have attainable := planned.attainable
  unfold Settings.Attainable at attainable
  cases exposed : plan.settings.exposure with
  | none =>
    have routes := planned.ofKind_eq_nil .route rfl (by simp [exposed])
    have ingresses := planned.ofKind_eq_nil .ingress rfl (by simp [exposed])
    exact ⟨routes, ingresses, Settings.service_isInside (by simp [exposed])⟩
  | some exposure =>
    rw [exposed] at attainable
    cases exposure with
    | nodePort =>
      have routes := planned.ofKind_eq_nil .route rfl (by simp [exposed])
      have ingresses := planned.ofKind_eq_nil .ingress rfl (by simp [exposed])
      exact ⟨routes, ingresses, _, Settings.nodePort_asked settled attainable, attainable,
        Settings.service_isReachedBy_nodePort exposed⟩
    | route =>
      obtain ⟨served, host, configured⟩ := attainable
      have ingresses := planned.ofKind_eq_nil .ingress rfl (by simp [exposed])
      have routes : plan.required.ofKind .route = [.route (plan.settings.route host)] := by
        rw [planned.ofKind_required, Settings.wanted?, if_pos exposed, configured]
        rfl
      exact ⟨⟨_, routes, Settings.route_opens settled configured⟩, ingresses, served,
        Settings.service_isInside (by simp [exposed])⟩
    | ingress =>
      obtain ⟨served, host, configured⟩ := attainable
      have routes := planned.ofKind_eq_nil .route rfl (by simp [exposed])
      have ingresses : plan.required.ofKind .ingress =
          [.ingress (plan.settings.ingress host)] := by
        rw [planned.ofKind_required, Settings.wanted?, if_pos exposed, configured]
        rfl
      exact ⟨⟨_, ingresses, Settings.ingress_opens settled configured⟩, routes, served,
        Settings.service_isInside (by simp [exposed])⟩

end Planned

/-- A plan realises exactly the way to be reached that its settings select: none unless the user
asks for one, and then the one that is named or, if none is, the one that suits the cluster. -/
theorem realises_selected_exposure {reader : Reader} {capabilities : Capabilities}
    {declaration : Instance} {plan : Plan}
    (planned : (declaration.plan reader (.ok capabilities)).result = .ok plan) :
    (plan.settings.exposure =
        if declaration.spec.asked.expose then
          some (declaration.spec.asked.exposeAs.getD (Settings.defaultExposure capabilities))
        else none) ∧
      ∃ service, plan.required.ofKind .service = [.service service] ∧
        plan.required.Realises declaration.spec.asked capabilities service
          plan.settings.exposure := by
  have planned := planned_iff.1 planned
  have told : capabilities = plan.capabilities := Except.ok.inj planned.probe_eq
  rw [told]
  refine ⟨?_, plan.settings.service, planned.ofKind_required .service, planned.realises⟩
  rw [Settings.exposure, planned.networking_eq]
  exact Settings.exposure_normalizeNetworking _ _

/-- An instance that is reached by an encrypted route, though a port of the nodes is given too. -/
def encryptedInstance : Instance :=
  .of (some "nexus3") (some "tools")
    { InstanceSpec.blank with
      networking :=
        some ⟨true, some .route, some "nexus.example.com", some 30081, some ⟨true, none⟩⟩ }

/-- The route of such an instance is encrypted, and its service does not take the port. -/
theorem realises_route_of_encryptedInstance :
    ∃ plan route service,
      (encryptedInstance.plan Cluster.empty.reader (.ok ⟨true, false, true⟩)).result = .ok plan ∧
      plan.required.ofKind .route = [.route route] ∧
      route.spec.tls = some ⟨RouteTls.edge, some RouteTls.redirect⟩ ∧
      plan.required.ofKind .ingress = [] ∧
      plan.required.ofKind .service = [.service service] ∧ service.IsInside := by
  obtain ⟨plan, planned⟩ : ∃ plan,
      (encryptedInstance.plan Cluster.empty.reader (.ok ⟨true, false, true⟩)).result = .ok plan :=
    ⟨_, rfl⟩
  obtain ⟨selected, service, required, realised⟩ := realises_selected_exposure planned
  rw [show plan.settings.exposure = some .route from selected] at realised
  obtain ⟨⟨route, routes, opens⟩, ingresses, -, inside⟩ := realised
  exact ⟨plan, route, service, planned, routes, opens.tls_eq, ingresses, required, inside⟩

end Instance

end Converge
