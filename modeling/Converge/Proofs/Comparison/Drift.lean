import Converge.Facet.Basic
import Converge.Proofs.Comparison.Reflexive

/-!
# What tells two deployments of an instance apart

The deployment that was made for some settings meets the one that is made for others exactly when
the settings agree on what the pods run: `Settings.RunsAs` lists the points, each a value of the
settings and not of the deployments made from them. Amounts may be written in other units, and
users and groups may be left over where none are asked for.

Nothing else of a specification reaches the deployment. `InstanceSpec.workload` is the part that
does, and specifications with the same part give the same deployment on every cluster.
-/

namespace Converge

/-- What runs for some settings is what other settings ask for. -/
structure Settings.RunsAs (running wanted : Settings) : Prop where
  replicas : running.replicas = wanted.replicas
  image : running.image = wanted.image
  policy : ImageReference.effectivePolicy running.imagePullPolicy running.image =
    ImageReference.effectivePolicy wanted.imagePullPolicy wanted.image
  requests : running.resources.toContainer.requests.amountsMeet
    wanted.resources.toContainer.requests = true
  limits : running.resources.toContainer.limits.amountsMeet
    wanted.resources.toContainer.limits = true
  flags : JavaFlags.render running.resources.memoryLimit running.randomPassword =
    JavaFlags.render wanted.resources.memoryLimit wanted.randomPassword
  persistent : running.persistence.persistent = wanted.persistence.persistent
  livenessProbe : running.livenessProbe = wanted.livenessProbe
  readinessProbe : running.readinessProbe = wanted.readinessProbe
  serviceAccountName : running.serviceAccountName = wanted.serviceAccountName
  users : (wanted.useRedHatImage = true ∧ wanted.persistence.persistent = true) ∨
    ¬ (running.useRedHatImage = true ∧ running.persistence.persistent = true)

private theorem toInt32_inj {a b : UInt32} : a.toInt32 = b.toInt32 ↔ a = b :=
  ⟨congrArg Int32.toUInt32, congrArg UInt32.toInt32⟩

private theorem effective_toProbe_inj {timing other : ProbeTiming} :
    timing.toProbe.effective = other.toProbe.effective ↔ timing = other := by
  cases timing
  cases other
  simp [ProbeTiming.toProbe, Probe.effective]

namespace Settings

variable {running wanted : Settings}

/-- The policy of a container is the one that its settings have the effect of. -/
theorem effectivePolicy_container (settings : Settings) :
    settings.container.effectivePolicy =
      ImageReference.effectivePolicy settings.imagePullPolicy settings.image := by
  rw [Container.effectivePolicy, container, Option.bind_some, PullPolicy.ofName?_name]
  rfl

private theorem env_container_inj :
    running.container.env = wanted.container.env ↔
      JavaFlags.render running.resources.memoryLimit running.randomPassword =
        JavaFlags.render wanted.resources.memoryLimit wanted.randomPassword := by
  simp [container]

private theorem volumeMounts_container_inj (named : running.name = wanted.name) :
    running.container.volumeMounts = wanted.container.volumeMounts ↔
      running.persistence.persistent = wanted.persistence.persistent := by
  unfold container
  rw [named]
  cases running.persistence.persistent <;> cases wanted.persistence.persistent <;> simp

private theorem volumes_inj (named : running.name = wanted.name) :
    running.deployment.spec.template.spec.volumes = wanted.deployment.spec.template.spec.volumes ↔
      running.persistence.persistent = wanted.persistence.persistent := by
  unfold deployment Deployment.of
  rw [named]
  cases running.persistence.persistent <;> cases wanted.persistence.persistent <;> simp

/-- Users and groups tell two deployments apart only where they are asked for and not given. -/
theorem meetsIfWanted_securityContext_iff :
    meetsIfWanted running.securityContext wanted.securityContext = true ↔
      (wanted.useRedHatImage = true ∧ wanted.persistence.persistent = true) ∨
        ¬ (running.useRedHatImage = true ∧ running.persistence.persistent = true) := by
  unfold meetsIfWanted securityContext
  cases running.useRedHatImage <;> cases running.persistence.persistent <;>
    cases wanted.useRedHatImage <;> cases wanted.persistence.persistent <;> decide

/-- When the container that runs for some settings is the one that others ask for. -/
theorem container_meets_iff (named : running.name = wanted.name) :
    running.container.meets wanted.container = true ↔
      running.image = wanted.image ∧
        ImageReference.effectivePolicy running.imagePullPolicy running.image =
          ImageReference.effectivePolicy wanted.imagePullPolicy wanted.image ∧
        JavaFlags.render running.resources.memoryLimit running.randomPassword =
          JavaFlags.render wanted.resources.memoryLimit wanted.randomPassword ∧
        running.resources.toContainer.requests.amountsMeet
          wanted.resources.toContainer.requests = true ∧
        running.resources.toContainer.limits.amountsMeet
          wanted.resources.toContainer.limits = true ∧
        running.livenessProbe = wanted.livenessProbe ∧
        running.readinessProbe = wanted.readinessProbe ∧
        running.persistence.persistent = wanted.persistence.persistent := by
  have names : (running.container.name == wanted.container.name) = true := rfl
  have ports : (running.container.ports.map ContainerPort.effective ==
      wanted.container.ports.map ContainerPort.effective) = true := rfl
  have resources : ∀ settings : Settings, settings.container.effectiveResources =
      settings.resources.toContainer := fun _ => rfl
  have probes : ∀ settings : Settings,
      settings.container.livenessProbe = some settings.livenessProbe.toProbe ∧
        settings.container.readinessProbe = some settings.readinessProbe.toProbe :=
    fun _ => ⟨rfl, rfl⟩
  simp only [Container.meets, Bool.and_eq_true, names, ports, resources, (probes _).1,
    (probes _).2, beq_iff_eq, effectivePolicy_container, env_container_inj,
    volumeMounts_container_inj named, Option.map_some, Option.some.injEq, effective_toProbe_inj,
    true_and, and_true, and_assoc]
  rfl

private theorem strategyType_congr (replicas : running.replicas = wanted.replicas)
    (persistent : running.persistence.persistent = wanted.persistence.persistent) :
    running.strategyType = wanted.strategyType := by
  rw [strategyType, strategyType, replicas, persistent]

/-- When what runs in the pods for some settings is what others ask for. -/
theorem podSpec_meets_iff (named : running.name = wanted.name) :
    running.deployment.spec.template.spec.meets wanted.deployment.spec.template.spec = true ↔
      running.serviceAccountName = wanted.serviceAccountName ∧
        running.persistence.persistent = wanted.persistence.persistent ∧
        ((wanted.useRedHatImage = true ∧ wanted.persistence.persistent = true) ∨
          ¬ (running.useRedHatImage = true ∧ running.persistence.persistent = true)) ∧
        running.container.meets wanted.container = true := by
  have accounts : ∀ settings : Settings,
      settings.deployment.spec.template.spec.serviceAccountName =
        some settings.serviceAccountName := fun _ => rfl
  have contexts : ∀ settings : Settings,
      settings.deployment.spec.template.spec.securityContext = settings.securityContext :=
    fun _ => rfl
  have containers : ∀ settings : Settings,
      settings.deployment.spec.template.spec.containers = [settings.container] := fun _ => rfl
  simp only [PodSpec.meets, Bool.and_eq_true, beq_iff_eq, accounts, contexts, containers,
    volumes_inj named, meetsIfWanted_securityContext_iff, meetsPairwise, Option.some.injEq,
    and_true, and_assoc]

/-- The deployment made for some settings meets the one made for others of the same instance exactly
when what runs for the first is what the second ask for. -/
theorem deployment_meets_iff (named : running.name = wanted.name)
    (placed : running.namespaceName = wanted.namespaceName) :
    running.deployment.meets wanted.deployment = true ↔ running.RunsAs wanted := by
  have metadata : running.deployment.metadata.meets wanted.deployment.metadata = true := by
    have same : running.deployment.metadata = wanted.deployment.metadata := by
      simp only [deployment, Deployment.of, named, placed]
    rw [same]
    exact Metadata.meets_self _
  have selector : running.deployment.spec.selector = wanted.deployment.spec.selector := by
    simp only [deployment, Deployment.of, named]
  have labels : wanted.deployment.spec.template.metadata.labels.isSubsetOf
      running.deployment.spec.template.metadata.labels = true := by
    simp only [deployment, Deployment.of, named]
    exact Dict.isSubsetOf_self _
  have replicas : ∀ settings : Settings,
      settings.deployment.spec.replicas = settings.replicas.toInt32 := fun _ => rfl
  have strategies : ∀ settings : Settings,
      Strategy.effectiveType settings.deployment.spec.strategy = settings.strategyType :=
    fun _ => rfl
  simp only [Deployment.meets, Bool.and_eq_true, beq_iff_eq, metadata, selector, labels, replicas,
    strategies, toInt32_inj, true_and, and_true, podSpec_meets_iff named,
    container_meets_iff named]
  constructor
  · rintro ⟨⟨replicas, account, persistent, users, image, policy, flags, requests, limits,
      liveness, readiness, _⟩, _⟩
    exact ⟨replicas, image, policy, requests, limits, flags, persistent, liveness, readiness,
      account, users⟩
  · intro same
    exact ⟨⟨same.replicas, same.serviceAccountName, same.persistent, same.users, same.image,
      same.policy, same.flags, same.requests, same.limits, same.livenessProbe,
      same.readinessProbe, same.persistent⟩, strategyType_congr same.replicas same.persistent⟩

end Settings

namespace InstanceSpec

/-- The part of a specification that reaches its deployment. -/
def workload (spec : InstanceSpec) : InstanceSpec :=
  { spec with
    credentials := none
    networking := none
    persistence := some ⟨(spec.persistence.getD .blank).persistent, none, none⟩ }

/-- Only the workload of a specification reaches its deployment, whatever the cluster offers. -/
theorem deployment_workload (name space : String) (spec : InstanceSpec)
    (capabilities offered : Capabilities) :
    (Settings.normalize name space spec.workload offered).deployment =
      (Settings.normalize name space spec capabilities).deployment :=
  rfl

end InstanceSpec

/-- Between two specifications of one instance, the comparison of their deployments tells exactly
the differences in what the pods run, whatever the clusters offer. Everything else, which is the
credentials, the networking, and the size and the storage class of the volume, may be replaced on
either side without changing the outcome. -/
theorem Deployment.meets_iff_runsAs (name space : String) (running wanted : InstanceSpec)
    (capabilities offered : Capabilities) :
    ((Settings.normalize name space running capabilities).deployment.meets
          (Settings.normalize name space wanted offered).deployment = true ↔
        (Settings.normalize name space running capabilities).RunsAs
          (Settings.normalize name space wanted offered)) ∧
      ∀ running' wanted' : InstanceSpec, running'.workload = running.workload →
        wanted'.workload = wanted.workload → ∀ capabilities' offered' : Capabilities,
          (Settings.normalize name space running' capabilities').deployment.meets
              (Settings.normalize name space wanted' offered').deployment =
            (Settings.normalize name space running capabilities).deployment.meets
              (Settings.normalize name space wanted offered).deployment := by
  refine ⟨Settings.deployment_meets_iff rfl rfl, ?_⟩
  intro running' wanted' sameRunning sameWanted capabilities' offered'
  rw [← running'.deployment_workload name space capabilities' capabilities', sameRunning,
    running.deployment_workload name space capabilities capabilities',
    ← wanted'.deployment_workload name space offered' offered', sameWanted,
    wanted.deployment_workload name space offered offered']

end Converge
