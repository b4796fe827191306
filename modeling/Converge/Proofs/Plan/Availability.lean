import Converge.Proofs.Plan.Exposure

/-!
# What depends on the platform

Two decisions look at what a cluster offers. The settings of an instance that is to be reached and
does not say how take a way that suits the cluster; and the network facet refuses a way that the
cluster does not serve. The first never leads to the second (`Settings.serves_defaultExposure`), so a
way is refused only if it was named.

Nothing else looks at the platform. An instance that is not reached, or that names its way, has the
same settings on every cluster (`Settings.normalize_congr`) and the same objects on all those that
serve the way: `Settings.platform_gates_named_exposure`.
-/

namespace Converge

/-- Whether a cluster serves what brings an exposure about. -/
def Capabilities.serves (capabilities : Capabilities) : Exposure → Bool
  | .nodePort => true
  | .route => capabilities.routes
  | .ingress => capabilities.ingress

namespace Facet

variable {settings : Settings} {capabilities : Capabilities} {owner kind : String}

/-- A kind that is served is not refused, and one that is not served is refused by its name. -/
private theorem requireServed_bind_eq_unavailable_iff {served : Bool} {wanted : Kind}
    {build : String → List Resource} :
    (do
        requireServed settings served wanted
        let host ← requireHost settings
        return build host : Except Failure (List Resource)) = .error (.unavailable owner kind) ↔
      owner = settings.name ∧ kind = wanted.name ∧ served = false := by
  cases served with
  | false =>
    simp only [requireServed, Bool.false_eq_true, if_false, bind, Except.bind, Except.error.injEq,
      Failure.unavailable.injEq, and_true]
    constructor <;> rintro ⟨rfl, rfl⟩ <;> exact ⟨rfl, rfl⟩
  | true =>
    -- What may fail now is the host, which is no matter of the cluster.
    cases configured : settings.networking.host <;>
      simp [requireServed, requireHost, configured, bind, Except.bind, pure, Except.pure,
        Failure.invalidField]

/-- An exposure is refused as unavailable exactly when it is the selected one and the cluster does
not serve its kind. Neither a missing host nor a missing port goes before. -/
theorem requiredExposure_eq_unavailable_iff :
    requiredExposure settings capabilities = .error (.unavailable owner kind) ↔
      owner = settings.name ∧ ∃ exposure wanted, settings.exposure = some exposure ∧
        exposure.kind? = some wanted ∧ kind = wanted.name ∧
        capabilities.serves exposure = false := by
  unfold requiredExposure
  cases settings.exposure with
  | none => simp
  | some exposure =>
    cases exposure with
    | nodePort =>
      dsimp only
      split <;> simp [Failure.invalidField, Exposure.kind?]
    | route | ingress =>
      dsimp only
      rw [requireServed_bind_eq_unavailable_iff]
      simp [Exposure.kind?, Capabilities.serves]

end Facet

namespace Settings

/-- The way that suits a cluster is one that the cluster serves. -/
theorem serves_defaultExposure (capabilities : Capabilities) :
    capabilities.serves (defaultExposure capabilities) = true := by
  obtain ⟨routes, ingress, openshift⟩ := capabilities
  cases routes <;> cases ingress <;> cases openshift <;> rfl

/-- Networking that says how an instance is reached, or that it is not, is settled without the
cluster. -/
theorem normalizeNetworking_congr {networking : Option NetworkingSpec}
    (decided : (networking.getD .blank).expose = false ∨
      (networking.getD .blank).exposeAs.isSome = true)
    (capabilities offered : Capabilities) :
    normalizeNetworking networking capabilities = normalizeNetworking networking offered := by
  have undecided : ((networking.getD .blank).exposeAs.isNone && (networking.getD .blank).expose) =
      false := by
    rcases decided with hidden | named
    · rw [hidden, Bool.and_false]
    · rw [Option.isNone_eq_false_iff.2 named, Bool.false_and]
  simp only [normalizeNetworking, undecided, Bool.false_eq_true, if_false]

/-- So are all settings of such an instance. -/
theorem normalize_congr (name space : String) {spec : InstanceSpec}
    (decided : spec.asked.expose = false ∨ spec.asked.exposeAs.isSome = true)
    (capabilities offered : Capabilities) :
    normalize name space spec capabilities = normalize name space spec offered := by
  simp only [normalize, normalizeNetworking_congr decided capabilities offered]

/-- The platform gates named exposures only. The network facet refuses a kind as unavailable exactly
when the user asks for an exposure, names the one of that kind, and the cluster does not serve it; a
way that is chosen for the user is always served. And where the user names a way or asks for none,
the objects that are wanted are the same on all clusters on which they can be had. -/
theorem platform_gates_named_exposure (name space : String) (spec : InstanceSpec)
    (capabilities : Capabilities) :
    (∀ owner kind,
        Facet.required (normalize name space spec capabilities) capabilities .network =
            .error (.unavailable owner kind) ↔
          owner = name ∧ ∃ exposure wanted, spec.asked.expose = true ∧
            spec.asked.exposeAs = some exposure ∧ exposure.kind? = some wanted ∧
            kind = wanted.name ∧ capabilities.serves exposure = false) ∧
      (spec.asked.exposeAs = none → ∀ exposure,
        (normalize name space spec capabilities).exposure = some exposure →
          capabilities.serves exposure = true) ∧
      (spec.asked.expose = false ∨ spec.asked.exposeAs.isSome = true →
        ∀ (offered : Capabilities) (objects others : List Resource),
          (normalize name space spec capabilities).required capabilities = .ok objects →
          (normalize name space spec offered).required offered = .ok others →
          objects = others) := by
  have selected : (normalize name space spec capabilities).exposure =
      if spec.asked.expose then some (spec.asked.exposeAs.getD (defaultExposure capabilities))
      else none := exposure_normalizeNetworking _ _
  refine ⟨fun owner kind => ?_, fun unnamed exposure chosen => ?_, ?_⟩
  · rw [Facet.required, Facet.requiredExposure_eq_unavailable_iff, selected]
    constructor
    · rintro ⟨named, exposure, wanted, chosen, brings, called, missing⟩
      split at chosen
      · next exposed =>
        cases asked : spec.asked.exposeAs with
        | none =>
          rw [asked, Option.getD_none] at chosen
          cases chosen
          rw [serves_defaultExposure] at missing
          cases missing
        | some way =>
          rw [asked, Option.getD_some] at chosen
          cases chosen
          exact ⟨named, exposure, wanted, exposed, rfl, brings, called, missing⟩
      · cases chosen
    · rintro ⟨named, exposure, wanted, exposed, asked, brings, called, missing⟩
      exact ⟨named, exposure, wanted, by rw [if_pos exposed, asked]; rfl, brings, called, missing⟩
  · rw [selected, unnamed, Option.getD_none] at chosen
    split at chosen <;> cases chosen
    exact serves_defaultExposure capabilities
  · intro decided offered objects others had had'
    rw [normalize_congr name space decided capabilities offered] at had
    rw [(required_eq_ok_iff.1 had).2, (required_eq_ok_iff.1 had').2]

/-- A route that is named on a cluster without routes is refused, though it has no host either; where
routes are served, one more kind changes nothing. -/
theorem named_route_gated :
    Facet.required
        (normalize "nexus3" "tools"
          { InstanceSpec.blank with networking := some ⟨true, some .route, none, none, none⟩ } .none)
        .none .network = .error (.unavailable "nexus3" "Route") ∧
      (normalize "nexus3" "tools" Instance.encryptedInstance.spec ⟨true, false, false⟩).required
          ⟨true, false, false⟩ =
        (normalize "nexus3" "tools" Instance.encryptedInstance.spec ⟨true, true, true⟩).required
          ⟨true, true, true⟩ := by
  constructor
  · obtain ⟨refused, _⟩ := platform_gates_named_exposure "nexus3" "tools"
      { InstanceSpec.blank with networking := some ⟨true, some .route, none, none, none⟩ } .none
    exact (refused "nexus3" "Route").2 ⟨rfl, .route, .route, rfl, rfl, rfl, rfl, rfl⟩
  · obtain ⟨_, _, same⟩ := platform_gates_named_exposure "nexus3" "tools"
      Instance.encryptedInstance.spec ⟨true, false, false⟩
    obtain ⟨objects, others, had, had'⟩ : ∃ objects others,
        (normalize "nexus3" "tools" Instance.encryptedInstance.spec
          ⟨true, false, false⟩).required ⟨true, false, false⟩ = .ok objects ∧
        (normalize "nexus3" "tools" Instance.encryptedInstance.spec
          ⟨true, true, true⟩).required ⟨true, true, true⟩ = .ok others := ⟨_, _, rfl, rfl⟩
    rw [had, had', same (.inr rfl) ⟨true, true, true⟩ objects others had had']

end Settings

end Converge
