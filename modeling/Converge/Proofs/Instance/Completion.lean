import Converge.Proofs.Instance.Normalization

/-!
# Settings complete a specification

Normalization pulls two ways. Everything that the objects of an instance are built from needs a
value, so what is absent, empty or out of range is replaced; and what the user has given stays as it
is wherever it can. `Repairs` and `Sifts` say both at once of one value: the value is acceptable, and
it is the given one if that is acceptable itself. `Settings.Completes` says it of all values of the
settings, part by part, and `Settings.normalize_completes` of the settings that normalization makes.
-/

namespace Converge

variable {α : Type} {Acceptable : α → Prop}

/-- A value in the place of one that may be given: it is acceptable, and it is the given one if that
is acceptable itself. -/
structure Repairs (Acceptable : α → Prop) (given : Option α) (value : α) : Prop where
  acceptable : Acceptable value
  kept : ∀ own, given = some own → Acceptable own → value = own

/-- An optional value in the place of another one: it is the given one if that is acceptable, and
none otherwise. -/
def Sifts (Acceptable : α → Prop) (given value : Option α) : Prop :=
  ∀ own, value = some own ↔ given = some own ∧ Acceptable own

/-- What is put in the place of an absent value has only to be acceptable. -/
theorem Repairs.of_none {value : α} (acceptable : Acceptable value) :
    Repairs Acceptable none value :=
  ⟨acceptable, fun _ given => nomatch given⟩

/-- An empty text is repaired by one that is not empty. -/
theorem Repairs.getD_nonEmpty {default : String} (named : default ≠ "") (text : Option String) :
    Repairs (· ≠ "") text ((Settings.nonEmpty text).getD default) := by
  cases taken : Settings.nonEmpty text with
  | none =>
    refine ⟨named, fun own given meant => ?_⟩
    rw [Settings.nonEmpty_eq_some_iff.2 ⟨given, meant⟩] at taken
    cases taken
  | some value =>
    obtain ⟨given, meant⟩ := Settings.nonEmpty_eq_some_iff.1 taken
    exact ⟨meant, fun own same _ => Option.some.inj (given.symm.trans same)⟩

/-- An optional text that is not empty is kept, and an empty one is dropped. -/
theorem Sifts.nonEmpty (text : Option String) : Sifts (· ≠ "") text (Settings.nonEmpty text) :=
  fun _ => Settings.nonEmpty_eq_some_iff

/-- A number below its least value is raised to it. -/
theorem Repairs.max (value least : Int32) : Repairs (least ≤ ·) (some value) (max value least) := by
  have larger : Max.max value least = if value ≤ least then least else value := rfl
  by_cases low : value ≤ least
  · rw [larger, if_pos low]
    refine ⟨Int32.le_refl least, ?_⟩
    rintro own ⟨⟩ high
    exact Int32.le_antisymm high low
  · rw [larger, if_neg low]
    refine ⟨Int32.le_of_lt (Int32.not_le.1 low), ?_⟩
    rintro own ⟨⟩ _
    rfl

/-! ## Resources -/

/-- An amount is given on some side. -/
def ResourceNeeds.HasAmount (needs : ResourceNeeds) : Prop :=
  ∃ amounts ∈ needs.requests.toList ++ needs.limits.toList,
    amounts.cpu ≠ none ∨ amounts.memory ≠ none

/-- Needs are not empty exactly if they have an amount. -/
theorem ResourceNeeds.isEmpty_eq_false_iff {needs : ResourceNeeds} :
    needs.isEmpty = false ↔ needs.HasAmount := by
  have some_side {side : Option ResourceAmounts} : side.all ResourceAmounts.isEmpty = false ↔
      ∃ amounts ∈ side.toList, amounts.cpu ≠ none ∨ amounts.memory ≠ none := by
    cases side with
    | none => simp
    | some amounts =>
      simp only [Option.all_some, Option.toList_some, List.mem_singleton, exists_eq_left,
        ResourceAmounts.isEmpty, Bool.and_eq_false_iff, Option.isNone_eq_false_iff,
        Option.isSome_iff_ne_none]
  rw [isEmpty, Bool.and_eq_false_iff, some_side, some_side]
  simp only [HasAmount, List.mem_append, or_and_right, exists_or]

/-- Resources with an amount are kept as a whole, and others are replaced by some with amounts. -/
theorem Settings.repairs_normalizeResources (needs : Option ResourceNeeds) :
    Repairs ResourceNeeds.HasAmount needs (normalizeResources needs) := by
  refine ⟨ResourceNeeds.isEmpty_eq_false_iff.1 (isEmpty_normalizeResources needs), ?_⟩
  rintro own rfl given
  rw [normalizeResources, ResourceNeeds.isEmpty_eq_false_iff.2 given]
  rfl

/-! ## Probes -/

/-- The timing of a probe completes one that may be given: no delay is below zero and nothing else
below one, and each value in range is kept. -/
structure ProbeTiming.Completes (timing : ProbeTiming) (given : Option ProbeTiming) : Prop where
  initialDelay : Repairs (0 ≤ ·) (given.map (·.initialDelay)) timing.initialDelay
  timeout : Repairs (1 ≤ ·) (given.map (·.timeout)) timing.timeout
  period : Repairs (1 ≤ ·) (given.map (·.period)) timing.period
  successThreshold : Repairs (1 ≤ ·) (given.map (·.successThreshold)) timing.successThreshold
  failureThreshold : Repairs (1 ≤ ·) (given.map (·.failureThreshold)) timing.failureThreshold

theorem Settings.normalizeProbe_completes (timing : Option ProbeTiming) :
    (normalizeProbe timing).Completes timing := by
  cases timing with
  | none =>
    exact ⟨.of_none (by decide), .of_none (by decide), .of_none (by decide), .of_none (by decide),
      .of_none (by decide)⟩
  | some timing => exact ⟨.max _ 0, .max _ 1, .max _ 1, .max _ 1, .max _ 1⟩

/-! ## Persistence and networking -/

/-- Persistence completes one that may be given: there is a size, and a class only if one is given. -/
structure Persistence.Completes (persistence : Persistence) (given : Option PersistenceSpec) :
    Prop where
  persistent_eq : persistence.persistent = (given.map (·.persistent)).getD false
  volumeSize : Repairs (· ≠ "") (given.bind (·.volumeSize)) persistence.volumeSize
  storageClass : Sifts (· ≠ "") (given.bind (·.storageClass)) persistence.storageClass

theorem Settings.normalizePersistence_completes (persistence : Option PersistenceSpec) :
    (normalizePersistence persistence).Completes persistence where
  persistent_eq := by cases persistence <;> rfl
  volumeSize := by cases persistence <;> exact .getD_nonEmpty (by decide) _
  storageClass := by cases persistence <;> exact .nonEmpty _

/-- Networking completes one that may be given: there is a way to be reached if the instance is
exposed, and a host only if one is given. -/
structure Networking.Completes (networking : Networking) (given : Option NetworkingSpec) : Prop where
  expose_eq : networking.expose = (given.map (·.expose)).getD false
  reachable : networking.expose = true → networking.exposeAs ≠ none
  exposeAs_kept : ∀ way, given.bind (·.exposeAs) = some way → networking.exposeAs = some way
  host : Sifts (· ≠ "") (given.bind (·.host)) networking.host
  nodePort_kept : ∀ port, given.bind (·.nodePort) = some port → networking.nodePort = port
  tls_kept : ∀ tls, given.bind (·.tls) = some tls → networking.tls = tls

theorem Settings.normalizeNetworking_completes (networking : Option NetworkingSpec)
    (capabilities : Capabilities) :
    (normalizeNetworking networking capabilities).Completes networking where
  expose_eq := by cases networking <;> rfl
  reachable exposed :=
    Option.isSome_iff_ne_none.1 (isSome_exposeAs networking capabilities exposed)
  exposeAs_kept way named := by
    obtain ⟨part, rfl, explicit⟩ := Option.bind_eq_some_iff.1 named
    simp only [normalizeNetworking, Option.getD_some, explicit, Option.isNone_some, Bool.false_and,
      Bool.false_eq_true, if_false]
  host := by cases networking <;> exact .nonEmpty _
  nodePort_kept port given := by
    obtain ⟨part, rfl, explicit⟩ := Option.bind_eq_some_iff.1 given
    exact congrArg (·.getD 0) explicit
  tls_kept tls given := by
    obtain ⟨part, rfl, explicit⟩ := Option.bind_eq_some_iff.1 given
    exact congrArg (·.getD .blank) explicit

/-! ## All settings -/

/-- A policy is recognised by its name only. -/
theorem PullPolicy.ofName?_eq_some_iff {name : String} {policy : PullPolicy} :
    ofName? name = some policy ↔ name = policy.name := by
  constructor
  · intro recognised
    unfold ofName? at recognised
    split at recognised
    · cases recognised
      assumption
    · split at recognised
      · cases recognised
        assumption
      · split at recognised <;> cases recognised
        assumption
  · rintro rfl
    exact ofName?_name policy

namespace Settings

/-- The certified image is taken if it is asked for, and otherwise an empty image is repaired. -/
theorem normalizeImage_of_certified {spec : InstanceSpec} (certified : spec.useRedHatImage = true) :
    normalizeImage spec = certifiedImage := if_pos certified

theorem repairs_normalizeImage {spec : InstanceSpec} (free : spec.useRedHatImage = false) :
    Repairs (· ≠ "") spec.image (normalizeImage spec) := by
  rw [normalizeImage, free]
  exact .getD_nonEmpty (by decide) spec.image

/-- Either way the image has a name. -/
theorem normalizeImage_ne (spec : InstanceSpec) : normalizeImage spec ≠ "" := by
  cases certified : spec.useRedHatImage with
  | true =>
    rw [normalizeImage_of_certified certified]
    decide
  | false => exact (repairs_normalizeImage certified).acceptable

/-- Settings complete a specification: every value is determined, and what is given and acceptable
is kept. -/
structure Completes (settings : Settings) (spec : InstanceSpec) : Prop where
  replicas_eq : settings.replicas = spec.replicas
  useRedHatImage_eq : settings.useRedHatImage = spec.useRedHatImage
  image_ne : settings.image ≠ ""
  image_certified : spec.useRedHatImage = true → settings.image = certifiedImage
  image : spec.useRedHatImage = false → Repairs (· ≠ "") spec.image settings.image
  imagePullPolicy_iff : ∀ policy : PullPolicy,
    settings.imagePullPolicy = some policy ↔ spec.imagePullPolicy = some policy.name
  resources : Repairs ResourceNeeds.HasAmount spec.resources settings.resources
  credentials_eq : settings.credentials = spec.credentials
  randomPassword_eq : settings.randomPassword = spec.randomPassword
  persistence : settings.persistence.Completes spec.persistence
  networking : settings.networking.Completes spec.networking
  livenessProbe : settings.livenessProbe.Completes spec.livenessProbe
  readinessProbe : settings.readinessProbe.Completes spec.readinessProbe
  serviceAccountName : Repairs (· ≠ "") spec.serviceAccountName settings.serviceAccountName

/-- The settings that normalization makes complete the specification, on every cluster. The name of
the instance is not empty, as it stands in for that of the account. -/
theorem normalize_completes {name : String} (named : name ≠ "") (space : String)
    (spec : InstanceSpec) (capabilities : Capabilities) :
    (normalize name space spec capabilities).Completes spec where
  replicas_eq := rfl
  useRedHatImage_eq := rfl
  image_ne := normalizeImage_ne spec
  image_certified := normalizeImage_of_certified
  image := repairs_normalizeImage
  imagePullPolicy_iff policy := by
    change spec.imagePullPolicy.bind PullPolicy.ofName? = some policy ↔ _
    simp only [Option.bind_eq_some_iff, PullPolicy.ofName?_eq_some_iff, exists_eq_right]
  resources := repairs_normalizeResources spec.resources
  credentials_eq := rfl
  randomPassword_eq := rfl
  persistence := normalizePersistence_completes spec.persistence
  networking := normalizeNetworking_completes spec.networking capabilities
  livenessProbe := normalizeProbe_completes spec.livenessProbe
  readinessProbe := normalizeProbe_completes spec.readinessProbe
  serviceAccountName := .getD_nonEmpty named spec.serviceAccountName

/-- A specification in which some values are empty or out of range, beside others that are not. -/
def unevenSpec : InstanceSpec :=
  { InstanceSpec.blank with
    image := some ""
    persistence := some ⟨true, some "", some "fast"⟩
    networking := some ⟨true, none, some "", some 30081, none⟩
    livenessProbe := some ⟨-1, 0, 7, 1, 0⟩ }

/-- The values that are acceptable are kept and the others are not. -/
theorem completes_unevenSpec :
    (normalize "nexus3" "tools" unevenSpec .none).image ≠ "" ∧
      (normalize "nexus3" "tools" unevenSpec .none).persistence.volumeSize ≠ "" ∧
      (normalize "nexus3" "tools" unevenSpec .none).persistence.storageClass = some "fast" ∧
      (normalize "nexus3" "tools" unevenSpec .none).networking.exposeAs ≠ none ∧
      (normalize "nexus3" "tools" unevenSpec .none).networking.nodePort = 30081 ∧
      0 ≤ (normalize "nexus3" "tools" unevenSpec .none).livenessProbe.initialDelay ∧
      (normalize "nexus3" "tools" unevenSpec .none).livenessProbe.period = 7 := by
  have completes : (normalize "nexus3" "tools" unevenSpec .none).Completes unevenSpec :=
    normalize_completes (by decide) "tools" unevenSpec .none
  exact ⟨completes.image_ne, completes.persistence.volumeSize.acceptable,
    (completes.persistence.storageClass "fast").2 ⟨rfl, by decide⟩,
    completes.networking.reachable rfl, completes.networking.nodePort_kept 30081 rfl,
    completes.livenessProbe.initialDelay.acceptable,
    completes.livenessProbe.period.kept 7 rfl (by decide)⟩

end Settings

end Converge
