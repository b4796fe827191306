import Converge.Facet.Basic
import Mathlib.Logic.Relation

/-!
# What a cluster fills in goes unnoticed

A cluster changes the objects that it stores: it adds labels and annotations of its own, writes out
what is left open, and assigns ports of nodes, storage classes, weights, and users and groups. The
`ServerStep` relations are single changes of this sort. Those that a cluster may make only where
nothing is asked for refer to the object that is wanted; the others do not.

No such change alters what a comparison says, also of an object that is not as wanted
(`Resource.ServerStep.compare_eq`), and so no sequence of them does
(`Facet.compare_of_serverSteps`).
-/

namespace Converge

/-- One list is the other with a change of the element at a position. -/
inductive ChangedAt {α : Type} (change : α → α → Prop) : Nat → List α → List α → Prop
  | head {item item' : α} {rest : List α} (changed : change item item') :
      ChangedAt change 0 (item :: rest) (item' :: rest)
  | tail {position : Nat} {item : α} {rest rest' : List α}
      (changed : ChangedAt change position rest rest') :
      ChangedAt change (position + 1) (item :: rest) (item :: rest')

namespace ChangedAt

variable {α β : Type} {change : α → α → Prop} {position : Nat} {items items' : List α}

/-- A change that a function does not see goes unseen in a list. -/
theorem map_eq (changed : ChangedAt change position items items') {view : α → β}
    (unseen : ∀ {item item'}, change item item' → view item' = view item) :
    items'.map view = items.map view := by
  induction changed with
  | head changed => rw [List.map_cons, List.map_cons, unseen changed]
  | tail _ ih => rw [List.map_cons, List.map_cons, ih]

/-- A change that goes unnoticed against the element wanted at its position goes unnoticed in the
list. -/
theorem meetsPairwise_eq (changed : ChangedAt change position items items')
    (meets : α → β → Bool) (wanteds : List β)
    (unnoticed : ∀ {wanted item item'}, wanteds[position]? = some wanted → change item item' →
      meets item' wanted = meets item wanted) :
    meetsPairwise meets items' wanteds = meetsPairwise meets items wanteds := by
  induction changed generalizing wanteds with
  | head changed =>
    cases wanteds with
    | nil => rfl
    | cons wanted rest => rw [meetsPairwise, meetsPairwise, unnoticed rfl changed]
  | tail _ ih =>
    cases wanteds with
    | nil => rfl
    | cons wanted rest =>
      have behind := ih rest fun found => unnoticed found
      rw [meetsPairwise, meetsPairwise, behind]

end ChangedAt

/-! ## Metadata -/

/-- Two dictionaries differ at most at one key, which a third one does not have. -/
def Dict.ServerStep (wanted found found' : Dict) : Prop :=
  ∃ key, wanted.get? key = none ∧ ∀ other, other ≠ key → found'.get? other = found.get? other

/-- Entries that are not wanted do not matter to inclusion. -/
theorem Dict.ServerStep.isSubsetOf_eq {wanted found found' : Dict}
    (step : wanted.ServerStep found found') :
    wanted.isSubsetOf found' = wanted.isSubsetOf found := by
  obtain ⟨key, free, elsewhere⟩ := step
  have same : ∀ other value, wanted.get? other = some value →
      found'.get? other = found.get? other := by
    intro other value wants
    apply elsewhere
    rintro rfl
    rw [free] at wants
    cases wants
  rw [Bool.eq_iff_iff, isSubsetOf_iff, isSubsetOf_iff]
  constructor
  · intro included other value wants
    rw [← same other value wants]
    exact included other value wants
  · intro included other value wants
    rw [same other value wants]
    exact included other value wants

/-- A label or an annotation is added, changed or removed, and none of that key is wanted. -/
inductive Metadata.ServerStep (wanted found : Metadata) : Metadata → Prop
  | label {labels : Dict} (changed : wanted.labels.ServerStep found.labels labels) :
      ServerStep wanted found { found with labels }
  | annotation {annotations : Dict}
      (changed : wanted.annotations.ServerStep found.annotations annotations) :
      ServerStep wanted found { found with annotations }

theorem Metadata.ServerStep.meets_eq {wanted found found' : Metadata}
    (step : wanted.ServerStep found found') : found'.meets wanted = found.meets wanted := by
  cases step with
  | label changed => simp only [meets, changed.isSubsetOf_eq]
  | annotation changed => simp only [meets, changed.isSubsetOf_eq]

/-! ## Containers -/

/-- The protocol of a port is written out. -/
inductive ContainerPort.ServerStep (found : ContainerPort) : ContainerPort → Prop
  | protocol (absent : found.protocol = none) :
      ServerStep found { found with protocol := some "TCP" }

theorem ContainerPort.ServerStep.effective_eq {found found' : ContainerPort}
    (step : found.ServerStep found') : found'.effective = found.effective := by
  cases step with
  | protocol absent => simp [effective, absent, defaultProtocol]

/-- The scheme of a probe or a part of its timing is written out. -/
inductive Probe.ServerStep (found : Probe) : Probe → Prop
  | scheme {check : HttpCheck} (checks : found.httpGet = some check)
      (absent : check.scheme = none) :
      ServerStep found { found with httpGet := some { check with scheme := some "HTTP" } }
  | initialDelay (absent : found.initialDelay = none) :
      ServerStep found { found with initialDelay := some 0 }
  | timeout (absent : found.timeout = none) : ServerStep found { found with timeout := some 1 }
  | period (absent : found.period = none) : ServerStep found { found with period := some 10 }
  | successThreshold (absent : found.successThreshold = none) :
      ServerStep found { found with successThreshold := some 1 }
  | failureThreshold (absent : found.failureThreshold = none) :
      ServerStep found { found with failureThreshold := some 3 }

theorem Probe.ServerStep.effective_eq {found found' : Probe} (step : found.ServerStep found') :
    found'.effective = found.effective := by
  cases step with
  | scheme checks absent =>
    simp [effective, checks, HttpCheck.effective, absent, defaultScheme]
  | initialDelay absent | timeout absent | period absent | successThreshold absent
  | failureThreshold absent =>
    simp [effective, absent]

/-- A value that a container leaves open is written out: its policy, which counts as open as well
when it is not recognised, its resources, the protocol of a port, or a value of a probe. -/
inductive Container.ServerStep (found : Container) : Container → Prop
  | policy (unrecognised : found.imagePullPolicy.bind PullPolicy.ofName? = none) :
      ServerStep found
        { found with imagePullPolicy := some (ImageReference.inferredPolicy found.image).name }
  | resources (absent : found.resources = none) :
      ServerStep found { found with resources := some ⟨.empty, .empty⟩ }
  | port {position : Nat} {ports : List ContainerPort}
      (changed : ChangedAt ContainerPort.ServerStep position found.ports ports) :
      ServerStep found { found with ports }
  | livenessProbe {probe probe' : Probe} (probes : found.livenessProbe = some probe)
      (changed : probe.ServerStep probe') :
      ServerStep found { found with livenessProbe := some probe' }
  | readinessProbe {probe probe' : Probe} (probes : found.readinessProbe = some probe)
      (changed : probe.ServerStep probe') :
      ServerStep found { found with readinessProbe := some probe' }

theorem Container.ServerStep.meets_eq {found found' wanted : Container}
    (step : found.ServerStep found') : found'.meets wanted = found.meets wanted := by
  cases step with
  | policy unrecognised =>
    simp only [meets, effectivePolicy, effectiveResources, unrecognised, Option.bind_some,
      PullPolicy.ofName?_name]
    rfl
  | resources absent => simp only [meets, effectivePolicy, effectiveResources, absent]; rfl
  | port changed =>
    have ports := changed.map_eq ContainerPort.ServerStep.effective_eq
    simp only [meets, effectivePolicy, effectiveResources, ports]
  | livenessProbe probes changed =>
    simp only [meets, effectivePolicy, effectiveResources, probes, Option.map_some,
      changed.effective_eq]
  | readinessProbe probes changed =>
    simp only [meets, effectivePolicy, effectiveResources, probes, Option.map_some,
      changed.effective_eq]

/-! ## Specifications -/

/-- A label of the pods is changed that is not wanted, the strategy or a value of a container is
written out, or users and groups are changed where none are wanted. -/
inductive DeploymentSpec.ServerStep (wanted found : DeploymentSpec) : DeploymentSpec → Prop
  | label {labels : Dict}
      (changed : wanted.template.metadata.labels.ServerStep found.template.metadata.labels
        labels) :
      ServerStep wanted found { found with template.metadata.labels := labels }
  | strategy (absent : found.strategy.bind (·.type) = none) :
      ServerStep wanted found { found with strategy := some ⟨some "RollingUpdate"⟩ }
  | container {position : Nat} {containers : List Container}
      (changed : ChangedAt Container.ServerStep position found.template.spec.containers
        containers) :
      ServerStep wanted found { found with template.spec.containers := containers }
  | securityContext (free : wanted.template.spec.securityContext = none)
      (context : Option SecurityContext) :
      ServerStep wanted found { found with template.spec.securityContext := context }

private theorem Deployment.meets_spec_eq {wanted found : Deployment} {spec : DeploymentSpec}
    (step : wanted.spec.ServerStep found.spec spec) :
    Deployment.meets { found with spec } wanted = found.meets wanted := by
  cases step with
  | label changed => simp only [meets, changed.isSubsetOf_eq]
  | strategy absent =>
    simp only [meets, Strategy.effectiveType, absent, Option.bind_some]
    rfl
  | container changed =>
    have containers := changed.meetsPairwise_eq Container.meets
      wanted.spec.template.spec.containers fun _ step => step.meets_eq
    simp only [meets, PodSpec.meets, containers]
  | securityContext free context =>
    simp only [meets, PodSpec.meets, meetsIfWanted, free, Option.isNone_none, Bool.true_or]

/-- The protocol or the target of a port is written out, or its port of the nodes is changed where
none is wanted. -/
inductive ServicePort.ServerStep (wanted? : Option ServicePort) (found : ServicePort) :
    ServicePort → Prop
  | protocol (absent : found.protocol = none) :
      ServerStep wanted? found { found with protocol := some "TCP" }
  | targetPort (absent : found.targetPort = none) :
      ServerStep wanted? found { found with targetPort := some (.number found.port) }
  | nodePort (free : ∀ wanted ∈ wanted?, wanted.nodePort = none) (port : Option Int32) :
      ServerStep wanted? found { found with nodePort := port }

private theorem ServicePort.ServerStep.meets_eq {wanted found found' : ServicePort}
    (step : ServerStep (some wanted) found found') : found'.meets wanted = found.meets wanted := by
  cases step with
  | protocol absent =>
    simp only [meets, effectiveProtocol, effectiveTarget, absent]
    rfl
  | targetPort absent =>
    simp only [meets, effectiveProtocol, effectiveTarget, absent]
    rfl
  | nodePort free port =>
    have open' := free wanted rfl
    simp only [meets, effectiveProtocol, effectiveTarget, meetsIfWanted, open',
      Option.isNone_none, Bool.true_or]

/-- The type of a service is written out, or one of its ports is changed. -/
inductive ServiceSpec.ServerStep (wanted found : ServiceSpec) : ServiceSpec → Prop
  | type (absent : found.type = none) :
      ServerStep wanted found { found with type := some "ClusterIP" }
  | port {position : Nat} {ports : List ServicePort}
      (changed : ChangedAt (ServicePort.ServerStep wanted.ports[position]?) position found.ports
        ports) :
      ServerStep wanted found { found with ports }

private theorem Service.meets_spec_eq {wanted found : Service} {spec : ServiceSpec}
    (step : wanted.spec.ServerStep found.spec spec) :
    Service.meets { found with spec } wanted = found.meets wanted := by
  cases step with
  | type absent =>
    simp only [meets, ServiceSpec.effectiveType, absent]
    rfl
  | port changed =>
    have ports := changed.meetsPairwise_eq ServicePort.meets wanted.spec.ports
      fun wants step => by
        rw [wants] at step
        exact step.meets_eq
    simp only [meets, ServiceSpec.effectiveType, ports]

/-- The storage class is changed where none is wanted. -/
inductive ClaimSpec.ServerStep (wanted found : ClaimSpec) : ClaimSpec → Prop
  | storageClass (free : wanted.storageClassName = none) (storage : Option String) :
      ServerStep wanted found { found with storageClassName := storage }

private theorem VolumeClaim.meets_spec_eq {wanted found : VolumeClaim} {spec : ClaimSpec}
    (step : wanted.spec.ServerStep found.spec spec) :
    VolumeClaim.meets { found with spec } wanted = found.meets wanted := by
  cases step with
  | storageClass free storage =>
    simp only [meets, ClaimSpec.storageRequest, meetsIfWanted, free, Option.isNone_none,
      Bool.true_or]

/-- The weight is changed where none is wanted. -/
inductive RouteSpec.ServerStep (wanted found : RouteSpec) : RouteSpec → Prop
  | weight (free : wanted.target.weight = none) (weight : Option Int32) :
      ServerStep wanted found { found with target.weight := weight }

private theorem Route.meets_spec_eq {wanted found : Route} {spec : RouteSpec}
    (step : wanted.spec.ServerStep found.spec spec) :
    Route.meets { found with spec } wanted = found.meets wanted := by
  cases step with
  | weight free weight =>
    simp only [meets, meetsIfWanted, free, Option.isNone_none, Bool.true_or]

/-! ## Objects -/

namespace Resource

/-- An object with other metadata. -/
def withMetadata (metadata : Metadata) : Resource → Resource
  | deployment object => .deployment { object with metadata }
  | service object => .service { object with metadata }
  | volumeClaim object => .volumeClaim { object with metadata }
  | serviceAccount object => .serviceAccount { object with metadata }
  | route object => .route { object with metadata }
  | ingress object => .ingress { object with metadata }

/-- A single change that a cluster makes by itself to an object, next to the object that is
wanted. -/
inductive ServerStep : (wanted found : Resource) → Resource → Prop
  | metadata {wanted found : Resource} {metadata : Metadata}
      (changed : wanted.metadata.ServerStep found.metadata metadata) :
      ServerStep wanted found (found.withMetadata metadata)
  | deployment {wanted found : Deployment} {spec : DeploymentSpec}
      (changed : wanted.spec.ServerStep found.spec spec) :
      ServerStep (.deployment wanted) (.deployment found) (.deployment { found with spec })
  | service {wanted found : Service} {spec : ServiceSpec}
      (changed : wanted.spec.ServerStep found.spec spec) :
      ServerStep (.service wanted) (.service found) (.service { found with spec })
  | volumeClaim {wanted found : VolumeClaim} {spec : ClaimSpec}
      (changed : wanted.spec.ServerStep found.spec spec) :
      ServerStep (.volumeClaim wanted) (.volumeClaim found) (.volumeClaim { found with spec })
  | route {wanted found : Route} {spec : RouteSpec}
      (changed : wanted.spec.ServerStep found.spec spec) :
      ServerStep (.route wanted) (.route found) (.route { found with spec })

private theorem compare_withMetadata_eq (kind : Kind) {wanted found : Resource}
    {metadata : Metadata} (changed : wanted.metadata.ServerStep found.metadata metadata) :
    Comparison.ofKind kind (found.withMetadata metadata) wanted =
      Comparison.ofKind kind found wanted := by
  have same := changed.meets_eq
  cases found <;> cases wanted <;> cases kind
  all_goals try rfl
  all_goals
    simp only [Resource.metadata] at same
    simp only [withMetadata, Comparison.ofKind, Deployment.meets, Service.meets, VolumeClaim.meets,
      ServiceAccount.meets, Route.meets, Ingress.meets, same]

/-- A change that a cluster makes by itself does not alter what a comparison says. -/
theorem ServerStep.compare_eq (kind : Kind) {wanted found found' : Resource}
    (step : ServerStep wanted found found') :
    Comparison.ofKind kind found' wanted = Comparison.ofKind kind found wanted := by
  cases step with
  | metadata changed => exact compare_withMetadata_eq kind changed
  | deployment changed =>
    cases kind
    case deployment => exact Deployment.meets_spec_eq changed
    all_goals rfl
  | service changed =>
    cases kind
    case service => exact Service.meets_spec_eq changed
    all_goals rfl
  | volumeClaim changed =>
    cases kind
    case volumeClaim => exact VolumeClaim.meets_spec_eq changed
    all_goals rfl
  | route changed =>
    cases kind
    case route => exact Route.meets_spec_eq changed
    all_goals rfl

end Resource

/-- No sequence of changes that a cluster makes by itself alters what the comparisons of the facets
say of an object, whether it is as wanted or not. -/
theorem Facet.compare_of_serverSteps (kind : Kind) {wanted found found' : Resource}
    (steps : Relation.ReflTransGen wanted.ServerStep found found') :
    (Registry.ofKinds ownedKinds).compare kind found' wanted =
      (Registry.ofKinds ownedKinds).compare kind found wanted := by
  rw [compare_ownedKinds]
  induction steps with
  | refl => rfl
  | tail _ step ih => exact (step.compare_eq kind).trans ih

/-- The service of an instance that is not exposed. -/
def plainService : Service :=
  (Settings.normalize "nexus3" "tools" .blank ⟨false, false, false⟩).service

/-- A service is not less as it is wanted when the cluster writes out its type and gives it a port
of the nodes. -/
theorem Facet.compare_service_with_nodePort :
    (Registry.ofKinds ownedKinds).compare .service
        (.service { plainService with
          spec.ports := [⟨some "http", 8081, some (.number 8081), some "TCP", some 30081⟩] })
        (.service plainService) =
      (Registry.ofKinds ownedKinds).compare .service
        (.service { plainService with spec.type := none }) (.service plainService) := by
  have typed : Resource.ServerStep (.service plainService)
      (.service { plainService with spec.type := none }) (.service plainService) :=
    .service (.type rfl)
  have free : ∀ wanted ∈ plainService.spec.ports[0]?, wanted.nodePort = none := by
    rintro _ ⟨⟩
    rfl
  have assigned : Resource.ServerStep (.service plainService) (.service plainService)
      (.service { plainService with
        spec.ports := [⟨some "http", 8081, some (.number 8081), some "TCP", some 30081⟩] }) :=
    .service (.port (.head (.nodePort free (some 30081))))
  exact compare_of_serverSteps .service (.tail (.single typed) assigned)

end Converge
