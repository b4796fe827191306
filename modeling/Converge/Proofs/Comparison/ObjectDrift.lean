import Converge.Proofs.Comparison.Drift
import Converge.Proofs.Plan.Objects

/-!
# What tells the objects of an instance apart, kind by kind

Two settings of one instance agree on a kind (`Settings.AgreesOn`) when they say the same about all
that the object of the kind is made from. `Settings.Wants` says in terms of the settings which kinds
there is an object of.

The object that was made for some settings meets the one that is made for others exactly when the
settings agree on the kind (`Settings.ofKind_wanted?_iff`). So what a comparison tolerates for the
sake of the cluster, such as a port of the nodes, a storage class or a weight that was not asked for,
never hides a change that was asked for.
-/

namespace Converge

namespace Settings

variable {running wanted : Settings}

/-- There is an object of a kind for the settings. -/
def Wants (settings : Settings) : Kind → Prop
  | .deployment | .service | .serviceAccount => True
  | .volumeClaim => settings.persistence.persistent = true
  | .route => settings.exposure = some .route
  | .ingress => settings.exposure = some .ingress

/-- Settings of one instance say the same about the object of a kind. A service account has nothing
but its name, and a storage class of the cluster's choice serves where none is asked for. -/
def AgreesOn (running wanted : Settings) : Kind → Prop
  | .deployment => running.RunsAs wanted
  | .service =>
    (running.exposure = some .nodePort ↔ wanted.exposure = some .nodePort) ∧
      (wanted.exposure = some .nodePort →
        running.networking.nodePort = wanted.networking.nodePort)
  | .volumeClaim =>
    (running.replicas ≤ 1 ↔ wanted.replicas ≤ 1) ∧
      Quantity.equal running.persistence.volumeSize wanted.persistence.volumeSize = true ∧
      (wanted.persistence.storageClass = none ∨
        running.persistence.storageClass = wanted.persistence.storageClass)
  | .serviceAccount => running.serviceAccountName = wanted.serviceAccountName
  | .route =>
    running.networking.host = wanted.networking.host ∧
      running.networking.tls.mandatory = wanted.networking.tls.mandatory
  | .ingress =>
    running.networking.host = wanted.networking.host ∧
      running.networking.tls.secretName = wanted.networking.tls.secretName

/-! ## What the objects are made from -/

/-- The service of an instance has the type of its exposure. -/
theorem effectiveType_service (settings : Settings) :
    settings.service.spec.effectiveType =
      if settings.exposure = some .nodePort then ServiceSpec.nodePort
      else ServiceSpec.clusterAddress := by
  unfold service Service.withNodePort exposure
  dsimp only
  split <;> rfl

/-- The service of an instance has one port, which is on the nodes if it is exposed so. -/
theorem ports_service (settings : Settings) :
    settings.service.spec.ports =
      [ { name := some serverPortName
          port := serverPort
          targetPort := some (.number serverPort)
          protocol := some defaultProtocol
          nodePort :=
            if settings.exposure = some .nodePort then some settings.networking.nodePort
            else none } ] := by
  unfold service Service.withNodePort exposure
  dsimp only
  split <;> rfl

/-- The service of an instance leads to the pods of the instance. -/
theorem selector_service (settings : Settings) :
    settings.service.spec.selector = Metadata.selectorLabels settings.name := by
  unfold service Service.withNodePort
  dsimp only
  split <;> rfl

/-- The route of an instance differs from the plain one in its encryption only. -/
theorem spec_route (settings : Settings) (host : String) :
    (settings.route host).spec =
      { (Route.toService settings host).spec with
        tls :=
          if settings.networking.tls.mandatory then some ⟨RouteTls.edge, some RouteTls.redirect⟩
          else none } := by
  unfold route
  dsimp only
  split <;> rfl

/-- The ingress of an instance is encrypted for its host if a secret is named. -/
theorem tls_ingress (settings : Settings) (host : String) :
    (settings.ingress host).spec.tls =
      (settings.networking.tls.secretName.map fun secret => ⟨[host], some secret⟩).toList := by
  unfold ingress
  cases settings.networking.tls.secretName <;> rfl

private theorem accessMode_inj :
    running.accessMode = wanted.accessMode ↔ (running.replicas ≤ 1 ↔ wanted.replicas ≤ 1) := by
  unfold accessMode
  by_cases single : running.replicas ≤ 1 <;> by_cases single' : wanted.replicas ≤ 1 <;>
    simp [single, single', ClaimSpec.readWriteOnce, ClaimSpec.readWriteMany]

/-! ## When one object meets another -/

section SameInstance

variable (named : running.name = wanted.name) (placed : running.namespaceName = wanted.namespaceName)

include named placed

private theorem meets_ofInstance :
    (Metadata.ofInstance running.name running.namespaceName).meets
      (Metadata.ofInstance wanted.name wanted.namespaceName) = true := by
  rw [named, placed]
  exact Metadata.meets_self _

/-- Two services are told apart by the port of the nodes only. -/
theorem service_meets_iff :
    running.service.meets wanted.service = true ↔ running.AgreesOn wanted .service := by
  have metadata : running.service.metadata.meets wanted.service.metadata = true := by
    rw [metadata_service, metadata_service]
    exact meets_ofInstance named placed
  have selector : running.service.spec.selector = wanted.service.spec.selector := by
    rw [selector_service, selector_service, named]
  have types : ServiceSpec.nodePort ≠ ServiceSpec.clusterAddress := by decide
  simp only [Service.meets, metadata, selector, effectiveType_service, ports_service,
    meetsPairwise, ServicePort.meets, meetsIfWanted, Bool.and_eq_true, Bool.or_eq_true, beq_iff_eq,
    ServicePort.effectiveProtocol, ServicePort.effectiveTarget, true_and, and_true, AgreesOn]
  by_cases reached : running.exposure = some .nodePort <;>
    by_cases asked : wanted.exposure = some .nodePort <;>
    simp [reached, asked, types, types.symm]

/-- Two claims are told apart by the access mode, the amount and the storage class that is asked
for. -/
theorem volumeClaim_meets_iff :
    running.volumeClaim.meets wanted.volumeClaim = true ↔
      running.AgreesOn wanted .volumeClaim := by
  have metadata : running.volumeClaim.metadata.meets wanted.volumeClaim.metadata = true :=
    meets_ofInstance named placed
  have modes : ∀ settings : Settings,
      settings.volumeClaim.spec.accessModes = [settings.accessMode] := fun _ => rfl
  have sizes : ∀ settings : Settings, settings.volumeClaim.spec.storageRequest =
      some settings.persistence.volumeSize := by
    intro settings
    simp [volumeClaim, VolumeClaim.of, ClaimSpec.storageRequest, Dict.get?_insert]
  have classes : ∀ settings : Settings, settings.volumeClaim.spec.storageClassName =
      settings.persistence.storageClass := fun _ => rfl
  simp only [VolumeClaim.meets, metadata, modes, sizes, classes, meetsIfWanted, Bool.and_eq_true,
    Bool.or_eq_true, beq_iff_eq, List.cons.injEq, and_true, true_and, accessMode_inj,
    Option.isNone_iff_eq_none, and_assoc, AgreesOn]

/-- Two routes are told apart by the host and by whether encryption is mandatory. -/
theorem route_meets_iff {host host' : String} (configured : running.networking.host = some host)
    (configured' : wanted.networking.host = some host') :
    (running.route host).meets (wanted.route host') = true ↔ running.AgreesOn wanted .route := by
  have metadata : (running.route host).metadata.meets (wanted.route host').metadata = true := by
    rw [metadata_route, metadata_route]
    exact meets_ofInstance named placed
  simp only [Route.meets, metadata, spec_route, Route.toService, Route.of, meetsIfWanted,
    Bool.and_eq_true, beq_iff_eq, named, Option.isNone_none, Bool.true_or, true_and, and_true,
    AgreesOn, configured, configured']
  cases running.networking.tls.mandatory <;> cases wanted.networking.tls.mandatory <;> simp

/-- Two ingresses are told apart by the host and by the secret that is named. -/
theorem ingress_meets_iff {host host' : String} (configured : running.networking.host = some host)
    (configured' : wanted.networking.host = some host') :
    (running.ingress host).meets (wanted.ingress host') = true ↔
      running.AgreesOn wanted .ingress := by
  have metadata : (running.ingress host).metadata.meets (wanted.ingress host').metadata = true := by
    rw [metadata_ingress, metadata_ingress, named, placed]
    exact Metadata.meets_self _
  simp only [Ingress.meets, metadata, rules_ingress, tls_ingress, Ingress.toService, Ingress.of,
    named, Bool.and_eq_true, beq_iff_eq, true_and, List.cons.injEq, Option.some.injEq, and_true,
    AgreesOn, configured, configured']
  cases running.networking.tls.secretName <;> cases wanted.networking.tls.secretName <;> simp

/-- The object of a kind that was made for some settings is as others of the same instance want it
exactly when they agree on the kind. -/
theorem ofKind_wanted?_iff {kind : Kind} {found object : Resource}
    (account : kind = .serviceAccount → running.serviceAccountName = wanted.serviceAccountName)
    (made : running.wanted? kind = some found) (wants : wanted.wanted? kind = some object) :
    Comparison.ofKind kind found object = true ↔ running.AgreesOn wanted kind := by
  cases kind <;> simp only [wanted?] at made wants
  case deployment =>
    cases made
    cases wants
    exact deployment_meets_iff named placed
  case service =>
    cases made
    cases wants
    exact service_meets_iff named placed
  case volumeClaim =>
    split at made <;> cases made
    split at wants <;> cases wants
    exact volumeClaim_meets_iff named placed
  case serviceAccount =>
    cases made
    cases wants
    have same := account rfl
    have metadata : running.serviceAccount.metadata = wanted.serviceAccount.metadata := by
      simp only [serviceAccount, ServiceAccount.of, named, placed, same]
    have meets : running.serviceAccount.meets wanted.serviceAccount = true := by
      rw [ServiceAccount.meets, metadata]
      exact Metadata.meets_self _
    exact iff_of_true meets same
  case route =>
    split at made
    · split at wants
      · obtain ⟨host, configured, rfl⟩ := Option.map_eq_some_iff.1 made
        obtain ⟨host', configured', rfl⟩ := Option.map_eq_some_iff.1 wants
        exact route_meets_iff named placed configured configured'
      · cases wants
    · cases made
  case ingress =>
    split at made
    · split at wants
      · obtain ⟨host, configured, rfl⟩ := Option.map_eq_some_iff.1 made
        obtain ⟨host', configured', rfl⟩ := Option.map_eq_some_iff.1 wants
        exact ingress_meets_iff named placed configured configured'
      · cases wants
    · cases made

end SameInstance

end Settings

end Converge
