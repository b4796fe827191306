import Converge.Proofs.Instance.Validation
import Converge.Proofs.Plan.References

/-!
# A volume with one writer has one pod

The storage facet chooses the access mode of the claim from the number of replicas, and the compute
facet the strategy of the deployment, each with a condition of its own. The conditions differ for an
instance without replicas, which validation refuses, and the number goes through a conversion that
keeps it because validation bounds it from above. So the two choices fit together in every plan:
`Instance.writers_agree`.
-/

namespace Converge

/-- How the pods of a deployment write the volume of a claim: one pod is the only writer, and is gone
before the next one comes; more pods share the volume, and are replaced one after the other. -/
structure Deployment.Writes (deployment : Deployment) (claim : VolumeClaim) : Prop where
  backed : deployment.spec.template.spec.volumes.map (·.claim) = [some ⟨claim.metadata.name⟩]
  alone_iff : claim.spec.accessModes = [ClaimSpec.readWriteOnce] ↔ deployment.spec.replicas = 1
  recreated_iff : deployment.spec.replicas = 1 ↔
    deployment.spec.strategy = some ⟨some Strategy.recreate⟩
  shared : deployment.spec.replicas ≠ 1 →
    claim.spec.accessModes = [ClaimSpec.readWriteMany] ∧
      deployment.spec.strategy = some ⟨some Strategy.rollingUpdate⟩

/-- The pods of a deployment have no volume, and are replaced one after the other. -/
structure Deployment.WritesNothing (deployment : Deployment) : Prop where
  volumes : deployment.spec.template.spec.volumes = []
  mounts : ∀ container ∈ deployment.spec.template.spec.containers, container.volumeMounts = []
  strategy_eq : deployment.spec.strategy = some ⟨some Strategy.rollingUpdate⟩

namespace InstanceSpec

/-- Whether an instance keeps its data. -/
def persists (spec : InstanceSpec) : Bool := (spec.persistence.getD .blank).persistent

/-- An accepted number of replicas is neither zero nor great. -/
theorem replicas_of_validate {spec : InstanceSpec} {owner : String}
    (valid : spec.validate owner = .ok ()) :
    1 ≤ spec.replicas.toNat ∧ spec.replicas.toNat ≤ 100 := by
  have passed := validate_eq_ok_iff.1 valid spec.replicasCheck List.mem_cons_self
  unfold replicasCheck at passed
  dsimp only at passed
  split at passed
  · assumption
  · cases passed

end InstanceSpec

/-- A number of replicas keeps its value as a signed number unless it is great. -/
theorem toInt_toInt32 {n : UInt32} (small : n.toNat ≤ 100) : n.toInt32.toInt = n.toNat := by
  have fits : 2 * n.toBitVec.toNat < 2 ^ 32 := by
    have : n.toBitVec.toNat = n.toNat := rfl
    omega
  exact BitVec.toInt_eq_toNat_of_lt fits

namespace Settings

variable {settings : Settings} (positive : 1 ≤ settings.replicas.toNat)

/-- The number of replicas is one as a signed number exactly if it is one. -/
theorem replicas_deployment_eq_one_iff (settings : Settings) :
    settings.deployment.spec.replicas = 1 ↔ settings.replicas = 1 := by
  change settings.replicas.toInt32 = UInt32.toInt32 1 ↔ _
  exact ⟨fun same => congrArg Int32.toUInt32 same, congrArg UInt32.toInt32⟩

include positive

/-- Without a number of zero the volume is for one pod exactly if there is one. -/
theorem accessMode_eq :
    settings.accessMode =
      if settings.replicas = 1 then ClaimSpec.readWriteOnce else ClaimSpec.readWriteMany := by
  have one : settings.replicas ≤ 1 ↔ settings.replicas = 1 := by
    rw [UInt32.le_iff_toNat_le, ← UInt32.toNat_inj, UInt32.toNat_one]
    omega
  simp only [accessMode, one]

/-- The pods of settings that keep data write the volume of the claim. -/
theorem deployment_writes (persistent : settings.persistence.persistent = true) :
    settings.deployment.Writes settings.volumeClaim := by
  have modes : settings.volumeClaim.spec.accessModes = [settings.accessMode] := rfl
  have strategy : settings.deployment.spec.strategy = some ⟨some settings.strategyType⟩ := rfl
  have differ : ClaimSpec.readWriteMany ≠ ClaimSpec.readWriteOnce ∧
      Strategy.rollingUpdate ≠ Strategy.recreate := by
    decide
  rw [accessMode_eq positive] at modes
  rw [strategyType, persistent, Bool.true_and] at strategy
  have backed : settings.deployment.spec.template.spec.volumes.map (·.claim) =
      [some ⟨settings.volumeClaim.metadata.name⟩] := by
    rw [volumes_deployment, if_pos persistent]
    rfl
  have counted := settings.replicas_deployment_eq_one_iff
  by_cases single : settings.replicas = 1
  · have one := counted.2 single
    rw [if_pos single] at modes
    rw [if_pos (beq_iff_eq.2 single)] at strategy
    exact ⟨backed, iff_of_true modes one, iff_of_true one strategy, fun more => absurd one more⟩
  · have more := mt counted.1 single
    rw [if_neg single] at modes
    rw [if_neg (mt beq_iff_eq.1 single)] at strategy
    refine ⟨backed, iff_of_false ?_ more, iff_of_false more ?_, fun _ => ⟨modes, strategy⟩⟩
    · rw [modes]
      simpa using differ.1
    · rw [strategy]
      simpa using differ.2

omit positive

/-- Those of settings that keep none have nothing to write. -/
theorem deployment_writesNothing (transient : settings.persistence.persistent = false) :
    settings.deployment.WritesNothing where
  volumes := by
    rw [volumes_deployment, transient]
    rfl
  mounts := by
    intro container inside
    cases List.mem_singleton.1 inside
    rw [Settings.container, transient]
    rfl
  strategy_eq := by
    change some (Strategy.mk (some settings.strategyType)) = _
    rw [strategyType, transient]
    rfl

end Settings

namespace Instance

/-- The objects that a plan requires agree on who writes the volume. There is one deployment, with the
number of replicas that is asked for. If the instance keeps its data, there is one claim, which is for
one pod exactly if there is one and it is gone before the next one comes; otherwise the claim is
shared. If the instance keeps no data, there is no claim and nothing to write. -/
theorem writers_agree {reader : Reader} {capabilities : Capabilities} {declaration : Instance}
    {plan : Plan} (planned : (declaration.plan reader (.ok capabilities)).result = .ok plan) :
    ∃ deployment, plan.required.ofKind .deployment = [.deployment deployment] ∧
      deployment.spec.replicas.toInt = declaration.spec.replicas.toNat ∧
      (declaration.spec.persists = true → ∃ claim,
        plan.required.ofKind .volumeClaim = [.volumeClaim claim] ∧ deployment.Writes claim) ∧
      (declaration.spec.persists = false →
        plan.required.ofKind .volumeClaim = [] ∧ deployment.WritesNothing) := by
  have planned := planned_iff.1 planned
  obtain ⟨positive, small⟩ := InstanceSpec.replicas_of_validate planned.valid
  have replicas : plan.settings.replicas = declaration.spec.replicas := by
    rw [planned.settings_eq]
    rfl
  have persistent : plan.settings.persistence.persistent = declaration.spec.persists := by
    rw [planned.settings_eq]
    rfl
  rw [← replicas] at positive small ⊢
  refine ⟨plan.settings.deployment, planned.ofKind_required .deployment, toInt_toInt32 small, ?_, ?_⟩
  · intro keeps
    rw [← persistent] at keeps
    refine ⟨plan.settings.volumeClaim, ?_, Settings.deployment_writes positive keeps⟩
    rw [planned.ofKind_required, Settings.wanted?, if_pos keeps]
    rfl
  · intro keeps
    rw [← persistent] at keeps
    refine ⟨?_, Settings.deployment_writesNothing keeps⟩
    rw [planned.ofKind_required, Settings.wanted?, if_neg (Bool.eq_false_iff.1 keeps)]
    rfl

/-- An instance that keeps its data, with a number of replicas. -/
def keepingInstance (replicas : UInt32) : Instance :=
  .of (some "nexus3") (some "tools")
    { InstanceSpec.blank with
      replicas
      persistence := some ⟨true, none, none⟩ }

/-- A single pod has its volume alone, and three pods share it. -/
theorem writers_of_keepingInstance :
    (∃ plan claim, ((keepingInstance 1).plan Cluster.empty.reader (.ok ⟨true, false, true⟩)).result =
        .ok plan ∧ plan.required.ofKind .volumeClaim = [.volumeClaim claim] ∧
        claim.spec.accessModes = [ClaimSpec.readWriteOnce]) ∧
      ∃ plan claim, ((keepingInstance 3).plan Cluster.empty.reader (.ok ⟨true, false, true⟩)).result =
        .ok plan ∧ plan.required.ofKind .volumeClaim = [.volumeClaim claim] ∧
        claim.spec.accessModes = [ClaimSpec.readWriteMany] := by
  constructor
  · obtain ⟨plan, planned⟩ : ∃ plan, ((keepingInstance 1).plan Cluster.empty.reader
        (.ok ⟨true, false, true⟩)).result = .ok plan := ⟨_, rfl⟩
    obtain ⟨deployment, _, replicas, keeps, _⟩ := writers_agree planned
    obtain ⟨claim, required, writes⟩ := keeps rfl
    exact ⟨plan, claim, planned, required, writes.alone_iff.2 (Int32.toInt_inj.1 replicas)⟩
  · obtain ⟨plan, planned⟩ : ∃ plan, ((keepingInstance 3).plan Cluster.empty.reader
        (.ok ⟨true, false, true⟩)).result = .ok plan := ⟨_, rfl⟩
    obtain ⟨deployment, _, replicas, keeps, _⟩ := writers_agree planned
    obtain ⟨claim, required, writes⟩ := keeps rfl
    have more : deployment.spec.replicas ≠ 1 := by
      intro one
      rw [one] at replicas
      exact absurd replicas (by decide)
    exact ⟨plan, claim, planned, required, (writes.shared more).1⟩

end Instance

end Converge
