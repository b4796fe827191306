import Converge.Proofs.Instance.BlankTexts
import Converge.Proofs.Plan.Deletion
import Converge.Proofs.Plan.Reading

/-!
# Passes over empty texts

A pass over an instance whose empty texts are dropped asks the same questions and fails in the same
cases with the same failures (`Instance.plan_dropBlanks`). If it gives a plan, this is the plan of
the instance as it was given, except for the secret of the certificate: an empty one is named by the
ingress (`Settings.dropBlankSecrets_eq_self_iff`), where an absent one brings no encryption.
`Instance.blank_texts_but_secret_as_absent` says for which instances this is seen.
-/

namespace Converge

namespace Registry

/-- The verdicts on a kind are those that bear the kind. -/
theorem filter_verdicts (registry : Registry) (required deployed : ResourceSet) (kind : Kind) :
    (registry.verdicts required deployed).filter (fun verdict => verdict.kind == kind) =
      registry.verdictsOfKind required deployed kind :=
  Kind.filter_flatMap Kind.nodup_planning kind.mem_planning
    fun _ _ judged => kind_of_mem_verdictsOfKind judged

/-- They depend on what is wanted of the kind only. -/
theorem verdictsOfKind_congr (registry : Registry) {required other : ResourceSet}
    (deployed : ResourceSet) {kind : Kind} (same : required.ofKind kind = other.ofKind kind) :
    registry.verdictsOfKind required deployed kind =
      registry.verdictsOfKind other deployed kind := by
  simp only [verdictsOfKind, ResourceSet.find?, same]

end Registry

/-- An object without encryption by secrets of an empty name. Only an ingress names secrets. -/
def Resource.dropBlankSecrets : Resource → Resource
  | .ingress object =>
    .ingress
      { object with
        spec :=
          { object.spec with
            tls := object.spec.tls.filter fun tls => tls.secretName ≠ some "" } }
  | other => other

/-- The kind of an object does not depend on its secrets. -/
theorem Resource.kind_dropBlankSecrets (object : Resource) :
    object.dropBlankSecrets.kind = object.kind := by
  cases object <;> rfl

/-- An object that is no ingress stays as it is. -/
theorem Resource.dropBlankSecrets_of_kind_ne {object : Resource} (other : object.kind ≠ .ingress) :
    object.dropBlankSecrets = object := by
  cases object with
  | ingress ingress => exact absurd rfl other
  | _ => rfl

/-- A plan without the encryption that an empty secret brings. -/
def Plan.dropBlankSecrets (plan : Plan) : Plan :=
  { plan with
    settings := plan.settings.dropBlankSecret
    required := plan.required.map Resource.dropBlankSecrets }

/-- What a plan requires of other kinds does not depend on secrets. -/
theorem Plan.ofKind_dropBlankSecrets (plan : Plan) {kind : Kind} (other : kind ≠ .ingress) :
    plan.dropBlankSecrets.required.ofKind kind = plan.required.ofKind kind := by
  rw [dropBlankSecrets, ResourceSet.ofKind_map Resource.kind_dropBlankSecrets]
  refine (List.map_congr_left fun object inside => ?_).trans (List.map_id _)
  obtain ⟨_, rfl⟩ := ResourceSet.mem_ofKind_iff.1 inside
  exact Resource.dropBlankSecrets_of_kind_ne other

/-- The verdicts on a kind depend on what is required and found of the kind only. -/
theorem Plan.filter_verdicts_dropBlankSecrets (plan : Plan) {kind : Kind}
    (other : kind ≠ .ingress) :
    plan.dropBlankSecrets.verdicts.filter (fun verdict => verdict.kind == kind) =
      plan.verdicts.filter fun verdict => verdict.kind == kind := by
  rw [verdicts, verdicts, Registry.filter_verdicts, Registry.filter_verdicts]
  exact Registry.verdictsOfKind_congr _ _ (plan.ofKind_dropBlankSecrets other)

namespace Settings

variable (settings : Settings) (capabilities : Capabilities)

/-- What is read does not depend on the secret. -/
theorem reads_dropBlankSecret :
    settings.dropBlankSecret.reads capabilities = settings.reads capabilities :=
  apply_dropBlankSecret (·.reads capabilities) rfl

/-- The ingress of settings without the empty secret. -/
theorem ingress_dropBlankSecret (host : String) :
    Resource.ingress (settings.dropBlankSecret.ingress host) =
      (Resource.ingress (settings.ingress host)).dropBlankSecrets := by
  cases secret : settings.networking.tls.secretName with
  | none =>
    have kept : settings.dropBlankSecret = settings := by simp [dropBlankSecret, secret]
    rw [kept, ingress, secret]
    rfl
  | some text =>
    by_cases blank : text = ""
    · subst blank
      simp [dropBlankSecret, withoutSecret, ingress, secret, Ingress.withTlsSecret,
        Ingress.toService, Ingress.of, Resource.dropBlankSecrets]
    · have kept : settings.dropBlankSecret = settings := by simp [dropBlankSecret, secret, blank]
      simp [kept, ingress, secret, Ingress.withTlsSecret, Resource.dropBlankSecrets, blank]

/-- Whether the exposure can be had does not depend on the secret, and the objects without the empty
secret are those with it, without the encryption that it brings. -/
theorem requiredExposure_dropBlankSecret :
    Facet.requiredExposure settings.dropBlankSecret capabilities =
      (Facet.requiredExposure settings capabilities).map (List.map Resource.dropBlankSecrets) := by
  have exposure : settings.dropBlankSecret.exposure = settings.exposure :=
    apply_dropBlankSecret exposure rfl
  have host : Facet.requireHost settings.dropBlankSecret = Facet.requireHost settings :=
    apply_dropBlankSecret Facet.requireHost rfl
  have name : settings.dropBlankSecret.name = settings.name := apply_dropBlankSecret (·.name) rfl
  have port : settings.dropBlankSecret.networking.nodePort = settings.networking.nodePort :=
    apply_dropBlankSecret (·.networking.nodePort) rfl
  have route (host : String) : settings.dropBlankSecret.route host = settings.route host :=
    apply_dropBlankSecret (·.route host) rfl
  unfold Facet.requiredExposure
  rw [exposure]
  cases settings.exposure with
  | none => rfl
  | some exposure =>
    cases exposure with
    | nodePort =>
      dsimp only
      rw [name, port]
      split <;> rfl
    | route =>
      simp only [Facet.requireServed, name, host, route]
      cases capabilities.routes <;> cases Facet.requireHost settings <;> rfl
    | ingress =>
      simp only [Facet.requireServed, name, host, ingress_dropBlankSecret]
      cases capabilities.ingress <;> cases Facet.requireHost settings <;> rfl

/-- So it is with everything that the facets want. -/
theorem required_dropBlankSecret :
    settings.dropBlankSecret.required capabilities =
      (settings.required capabilities).map (List.map Resource.dropBlankSecrets) := by
  have account : settings.dropBlankSecret.serviceAccount = settings.serviceAccount :=
    apply_dropBlankSecret serviceAccount rfl
  have persistent :
      settings.dropBlankSecret.persistence.persistent = settings.persistence.persistent :=
    apply_dropBlankSecret (·.persistence.persistent) rfl
  have claim : settings.dropBlankSecret.volumeClaim = settings.volumeClaim :=
    apply_dropBlankSecret volumeClaim rfl
  have deployment : settings.dropBlankSecret.deployment = settings.deployment :=
    apply_dropBlankSecret deployment rfl
  have service : settings.dropBlankSecret.service = settings.service :=
    apply_dropBlankSecret service rfl
  simp only [required_eq_map, Facet.required, requiredExposure_dropBlankSecret, account, persistent,
    claim, deployment, service]
  cases Facet.requiredExposure settings capabilities with
  | error failure => rfl
  | ok exposure => cases settings.persistence.persistent <;> rfl

variable {settings}

/-- What settings want loses something with the empty secret exactly if it is an ingress and the
settings have such a secret. -/
theorem dropBlankSecrets_eq_self_iff {kind : Kind} {object : Resource}
    (wanted : settings.wanted? kind = some object) :
    object.dropBlankSecrets = object ↔
      ¬ (kind = .ingress ∧ settings.networking.tls.secretName = some "") := by
  by_cases leads : kind = .ingress
  · subst leads
    simp only [wanted?] at wanted
    split at wanted
    · obtain ⟨host, _, rfl⟩ := Option.map_eq_some_iff.1 wanted
      cases secret : settings.networking.tls.secretName with
      | none => simp [ingress, secret, Ingress.toService, Ingress.of, Resource.dropBlankSecrets]
      | some text =>
        by_cases blank : text = ""
        · simp [ingress, secret, blank, Ingress.withTlsSecret, Resource.dropBlankSecrets]
        · simp [ingress, secret, blank, Ingress.withTlsSecret, Resource.dropBlankSecrets]
    · cases wanted
  · have other : object.kind ≠ .ingress := kind_of_wanted? wanted ▸ leads
    exact iff_of_true (Resource.dropBlankSecrets_of_kind_ne other) fun both => leads both.1

end Settings

namespace Instance

/-- An instance without those texts of some fields that are given and empty. -/
def dropBlanks (declaration : Instance) (fields : List TextField) : Instance :=
  { declaration with spec := declaration.spec.dropBlanks fields }

/-- What a pass tells: why it fails, or the objects that are required and the verdicts. -/
def tells (declaration : Instance) (reader : Reader) (probe : Except Failure Capabilities) :
    Except Failure (ResourceSet × List Verdict) :=
  (declaration.plan reader probe).result.map fun plan => (plan.required, plan.verdicts)

/-- What a pass tells about a kind. -/
def tellsOf (declaration : Instance) (reader : Reader) (probe : Except Failure Capabilities)
    (kind : Kind) : Except Failure (List Resource × List Verdict) :=
  (declaration.tells reader probe).map fun (required, verdicts) =>
    (required.ofKind kind, verdicts.filter fun verdict => verdict.kind == kind)

variable (reader : Reader) (probe : Except Failure Capabilities) (declaration : Instance)
  (fields : List TextField)

/-- A pass over an instance without its empty texts does what the pass over the instance does, up to
the encryption that an empty secret brings. -/
theorem plan_dropBlanks :
    (declaration.dropBlanks fields).plan reader probe =
      if .secretName ∈ fields then
        ⟨(declaration.plan reader probe).events,
          (declaration.plan reader probe).result.map Plan.dropBlankSecrets⟩
      else declaration.plan reader probe := by
  have identified : (declaration.dropBlanks fields).identity = declaration.identity := rfl
  have checked (owner : String) : (declaration.dropBlanks fields).spec.validate owner =
      declaration.spec.validate owner := InstanceSpec.validate_dropBlanks ..
  split
  · next dropped =>
    have settled (name space : String) (capabilities : Capabilities) :
        Settings.normalize name space (declaration.dropBlanks fields).spec capabilities =
          (Settings.normalize name space declaration.spec capabilities).dropBlankSecret := by
      rw [dropBlanks, Settings.normalize_dropBlanks, if_pos dropped]
    exact plan_eq_map Settings.dropBlankSecret Resource.dropBlankSecrets
      Resource.kind_dropBlankSecrets identified checked settled Settings.required_dropBlankSecret
      Settings.reads_dropBlankSecret
  · next kept =>
    have settled (name space : String) (capabilities : Capabilities) :
        Settings.normalize name space (declaration.dropBlanks fields).spec capabilities =
          Settings.normalize name space declaration.spec capabilities := by
      rw [dropBlanks, Settings.normalize_dropBlanks, if_neg kept]
    simp only [plan, identified, checked, settled]

variable {reader probe declaration fields} {plan : Plan}

namespace Planned

/-- A plan that does not expose its instance as an ingress with an empty secret requires the same
without such a secret, and no other plan does. -/
theorem required_dropBlankSecrets_eq_self_iff (planned : Planned reader probe declaration plan) :
    plan.dropBlankSecrets.required = plan.required ↔
      ¬ (plan.settings.exposure = some .ingress ∧
        plan.settings.networking.tls.secretName = some "") := by
  rw [Plan.dropBlankSecrets, ResourceSet.map_eq_self_iff Resource.kind_dropBlankSecrets]
  constructor
  · rintro fixed ⟨exposed, blank⟩
    have attainable := planned.attainable
    rw [Settings.Attainable, exposed] at attainable
    obtain ⟨_, host, configured⟩ := attainable
    have wanted : plan.settings.wanted? .ingress =
        some (.ingress (plan.settings.ingress host)) := by
      rw [Settings.wanted?, if_pos exposed, configured, Option.map_some]
    have lost := Settings.dropBlankSecrets_eq_self_iff wanted
    exact lost.1 (fixed _ (planned.mem_required_iff.2 wanted)) ⟨rfl, blank⟩
  · intro unseen object inside
    have wanted := planned.mem_required_iff.1 inside
    refine (Settings.dropBlankSecrets_eq_self_iff wanted).2 ?_
    rintro ⟨leads, blank⟩
    rw [leads, Settings.wanted?] at wanted
    split at wanted
    · next exposed => exact unseen ⟨exposed, blank⟩
    · cases wanted

end Planned

/-- Empty texts are as good as absent ones, apart from the secret of the certificate. A pass over an
instance without them asks the same questions and fails in the same cases with the same failures.
What it tells of the kinds other than ingresses is the same; and all that it tells is, unless the
instance is exposed as an ingress, an empty secret is given, and it is among what is dropped. -/
theorem blank_texts_but_secret_as_absent (reader : Reader) (probe : Except Failure Capabilities)
    (declaration : Instance) (fields : List TextField) :
    ((declaration.dropBlanks fields).plan reader probe).events =
        (declaration.plan reader probe).events ∧
      (∀ failure, ((declaration.dropBlanks fields).plan reader probe).result = .error failure ↔
        (declaration.plan reader probe).result = .error failure) ∧
      (∀ kind, kind ≠ .ingress →
        (declaration.dropBlanks fields).tellsOf reader probe kind =
          declaration.tellsOf reader probe kind) ∧
      ((declaration.dropBlanks fields).tells reader probe = declaration.tells reader probe ↔
        ¬ (.secretName ∈ fields ∧ declaration.spec.text? .secretName = some "" ∧
          ∃ plan, (declaration.plan reader probe).result = .ok plan ∧
            plan.settings.exposure = some .ingress)) := by
  by_cases dropped : .secretName ∈ fields
  · have passed := plan_dropBlanks reader probe declaration fields
    rw [if_pos dropped] at passed
    simp only [tells, tellsOf, passed, dropped, true_and]
    cases result : (declaration.plan reader probe).result with
    | error failure => simp [Except.map]
    | ok plan =>
      have planned := planned_iff.1 result
      have secret : declaration.spec.text? .secretName =
          plan.settings.networking.tls.secretName := by
        rw [planned.settings_eq, Settings.secretName_normalize]
      have told : (plan.dropBlankSecrets.required, plan.dropBlankSecrets.verdicts) =
            (plan.required, plan.verdicts) ↔
          plan.dropBlankSecrets.required = plan.required := by
        refine ⟨congrArg Prod.fst, fun same => ?_⟩
        exact Prod.ext same (congrArg (plan.registry.verdicts · plan.deployed) same)
      refine ⟨fun failure => by simp [Except.map], fun kind other => ?_, ?_⟩
      · simp only [Except.map, plan.ofKind_dropBlankSecrets other,
          plan.filter_verdicts_dropBlankSecrets other]
      · simp only [Except.map, Except.ok.injEq, told, exists_eq_left', secret,
          planned.required_dropBlankSecrets_eq_self_iff]
        exact not_congr and_comm
  · have passed := plan_dropBlanks reader probe declaration fields
    rw [if_neg dropped] at passed
    simp only [tells, tellsOf, passed, dropped, false_and, not_false_eq_true, iff_self, implies_true,
      and_self]

/-- An instance that is exposed as an ingress, with texts that are given and empty. -/
def blankInstance : Instance :=
  .of (some "nexus3") (some "tools")
    { InstanceSpec.blank with
      image := some ""
      networking :=
        some ⟨true, some .ingress, some "nexus.example.com", none, some ⟨false, some ""⟩⟩ }

/-- Its image may be dropped without being missed, and dropping the secret is seen in no other object
than the ingress, but there it is. -/
theorem blank_texts_of_blankInstance :
    (blankInstance.dropBlanks [.image]).tells Cluster.empty.reader (.ok ⟨false, true, false⟩) =
        blankInstance.tells Cluster.empty.reader (.ok ⟨false, true, false⟩) ∧
      (blankInstance.dropBlanks [.image, .secretName]).tellsOf Cluster.empty.reader
          (.ok ⟨false, true, false⟩) .deployment =
        blankInstance.tellsOf Cluster.empty.reader (.ok ⟨false, true, false⟩) .deployment ∧
      (blankInstance.dropBlanks [.image, .secretName]).tells Cluster.empty.reader
          (.ok ⟨false, true, false⟩) ≠
        blankInstance.tells Cluster.empty.reader (.ok ⟨false, true, false⟩) := by
  obtain ⟨_, _, _, image⟩ := blank_texts_but_secret_as_absent Cluster.empty.reader
    (.ok ⟨false, true, false⟩) blankInstance [.image]
  obtain ⟨_, _, others, secret⟩ := blank_texts_but_secret_as_absent Cluster.empty.reader
    (.ok ⟨false, true, false⟩) blankInstance [.image, .secretName]
  refine ⟨image.2 fun seen => absurd seen.1 (by decide), others .deployment (by decide), ?_⟩
  exact fun same => secret.1 same ⟨by decide, rfl, _, rfl, rfl⟩

/-- Where the objects of the instance without a secret are stored, a pass over that instance requires
other objects, and has other verdicts, than a pass over the instance with the empty one. -/
theorem blank_secret_not_as_absent :
    ∃ plan given absent,
      blankInstance.spec.text? .secretName = some "" ∧
      ((blankInstance.dropBlanks [.secretName]).plan Cluster.empty.reader
        (.ok ⟨false, true, false⟩)).result = .ok plan ∧
      (blankInstance.plan (plan.apply .empty).reader (.ok ⟨false, true, false⟩)).result =
        .ok given ∧
      ((blankInstance.dropBlanks [.secretName]).plan (plan.apply .empty).reader
        (.ok ⟨false, true, false⟩)).result = .ok absent ∧
      given.required ≠ absent.required ∧ given.verdicts ≠ absent.verdicts :=
  ⟨_, _, _, rfl, rfl, rfl, rfl, by decide +kernel, by decide +kernel⟩

end Instance

end Converge
