import Converge.Instance.Validation
import Converge.Proofs.Instance.Normalization

/-!
# Empty texts

An optional text of a specification may be given and empty (`InstanceSpec.text?`). Validation and
normalization look through such a text as if it was absent: dropping it changes neither
(`InstanceSpec.validate_dropBlanks`, `Settings.normalize_dropBlanks`), whichever of the fields are
chosen. The one exception is the secret of the certificate, which is taken over as it is given, so
settings may hold an empty one. `Settings.dropBlankSecret` is what they would be without it.
-/

namespace Converge

/-- A field of a specification that holds an optional text. -/
inductive TextField where
  | image
  | imagePullPolicy
  | serviceAccountName
  | volumeSize
  | storageClass
  | host
  | secretName
  deriving DecidableEq

namespace InstanceSpec

/-- The text of a field, if it and the part that it belongs to are given. -/
def text? (spec : InstanceSpec) : TextField → Option String
  | .image => spec.image
  | .imagePullPolicy => spec.imagePullPolicy
  | .serviceAccountName => spec.serviceAccountName
  | .volumeSize => spec.persistence.bind (·.volumeSize)
  | .storageClass => spec.persistence.bind (·.storageClass)
  | .host => spec.networking.bind (·.host)
  | .secretName => (spec.networking.bind (·.tls)).bind (·.secretName)

/-- A specification without the text of a field. -/
def without (spec : InstanceSpec) : TextField → InstanceSpec
  | .image => { spec with image := none }
  | .imagePullPolicy => { spec with imagePullPolicy := none }
  | .serviceAccountName => { spec with serviceAccountName := none }
  | .volumeSize =>
    { spec with persistence := spec.persistence.map fun part => { part with volumeSize := none } }
  | .storageClass =>
    { spec with persistence := spec.persistence.map fun part => { part with storageClass := none } }
  | .host => { spec with networking := spec.networking.map fun part => { part with host := none } }
  | .secretName =>
    { spec with
      networking := spec.networking.map fun part =>
        { part with tls := part.tls.map fun tls => { tls with secretName := none } } }

/-- A specification without the text of a field, if that is given and empty. -/
def dropBlank (spec : InstanceSpec) (field : TextField) : InstanceSpec :=
  if spec.text? field = some "" then spec.without field else spec

/-- A specification without those texts of some fields that are given and empty. -/
def dropBlanks (spec : InstanceSpec) (fields : List TextField) : InstanceSpec :=
  fields.foldl dropBlank spec

/-- An empty text is not checked, so that dropping it does not change what validation finds. -/
theorem validate_dropBlank (spec : InstanceSpec) (field : TextField) (owner : String) :
    (spec.dropBlank field).validate owner = spec.validate owner := by
  unfold dropBlank
  split
  · next blank =>
    have sizes : ((spec.without field).persistence.map sizeChecks).getD [] =
        (spec.persistence.map sizeChecks).getD [] := by
      cases field with
      | volumeSize =>
        obtain ⟨part, given, blank⟩ := Option.bind_eq_some_iff.1 blank
        simp [without, given, sizeChecks, blank]
      | storageClass =>
        obtain ⟨part, given, _⟩ := Option.bind_eq_some_iff.1 blank
        simp [without, given, sizeChecks]
      | image | imagePullPolicy | serviceAccountName | host | secretName => rfl
    unfold validate checks
    rw [sizes]
    cases field <;> rfl
  · rfl

/-- Dropping empty texts does not change what validation finds. -/
theorem validate_dropBlanks (spec : InstanceSpec) (fields : List TextField) (owner : String) :
    (spec.dropBlanks fields).validate owner = spec.validate owner := by
  unfold dropBlanks
  induction fields generalizing spec with
  | nil => rfl
  | cons field rest ih => rw [List.foldl_cons, ih, validate_dropBlank]

end InstanceSpec

namespace Settings

variable {spec : InstanceSpec} {field : TextField}

/-- Settings without the secret of the certificate. -/
def withoutSecret (settings : Settings) : Settings :=
  { settings with
    networking :=
      { settings.networking with tls := { settings.networking.tls with secretName := none } } }

/-- Settings without the secret of the certificate, if that is empty. -/
def dropBlankSecret (settings : Settings) : Settings :=
  if settings.networking.tls.secretName = some "" then settings.withoutSecret else settings

/-- What does not look at the secret does not see that an empty one is dropped. -/
theorem apply_dropBlankSecret {α : Type} (look : Settings → α) {settings : Settings}
    (blind : look settings.withoutSecret = look settings) :
    look settings.dropBlankSecret = look settings := by
  unfold dropBlankSecret
  split
  · exact blind
  · rfl

/-- Once dropped, an empty secret is not there to be dropped again. -/
theorem dropBlankSecret_dropBlankSecret (settings : Settings) :
    settings.dropBlankSecret.dropBlankSecret = settings.dropBlankSecret := by
  by_cases blank : settings.networking.tls.secretName = some ""
  · simp [dropBlankSecret, withoutSecret, blank]
  · simp [dropBlankSecret, blank]

/-- The secret of the certificate is taken over as it is given. -/
theorem secretName_normalize (name space : String) (spec : InstanceSpec)
    (capabilities : Capabilities) :
    (normalize name space spec capabilities).networking.tls.secretName = spec.text? .secretName := by
  unfold normalize normalizeNetworking InstanceSpec.text?
  rcases spec.networking with _ | ⟨_, _, _, _, _ | _⟩ <;> rfl

/-- Any other empty text is not taken over into the settings. -/
theorem normalize_without (name space : String) (capabilities : Capabilities)
    (blank : spec.text? field = some "") (other : field ≠ .secretName) :
    normalize name space (spec.without field) capabilities =
      normalize name space spec capabilities := by
  have empty : nonEmpty (some "") = none := nonEmpty_eq_none_iff.2 rfl
  cases field with
  | image =>
    have image : normalizeImage (spec.without .image) = normalizeImage spec := by
      have blank : spec.image = some "" := blank
      simp only [normalizeImage, InstanceSpec.without, blank, empty]
      rfl
    simp only [normalize, image]
    rfl
  | imagePullPolicy =>
    have blank : spec.imagePullPolicy = some "" := blank
    have unknown : PullPolicy.ofName? "" = none := by decide
    simp only [normalize, blank, Option.bind_some, unknown]
    rfl
  | serviceAccountName =>
    have blank : spec.serviceAccountName = some "" := blank
    simp only [normalize, blank, empty]
    rfl
  | volumeSize =>
    obtain ⟨part, given, blank⟩ := Option.bind_eq_some_iff.1 blank
    have persistence : normalizePersistence (spec.without .volumeSize).persistence =
        normalizePersistence spec.persistence := by
      simp only [InstanceSpec.without, given, Option.map_some, normalizePersistence,
        Option.getD_some, blank, empty]
      rfl
    simp only [normalize, persistence]
    rfl
  | storageClass =>
    obtain ⟨part, given, blank⟩ := Option.bind_eq_some_iff.1 blank
    have persistence : normalizePersistence (spec.without .storageClass).persistence =
        normalizePersistence spec.persistence := by
      simp only [InstanceSpec.without, given, Option.map_some, normalizePersistence,
        Option.getD_some, blank, empty]
      rfl
    simp only [normalize, persistence]
    rfl
  | host =>
    obtain ⟨part, given, blank⟩ := Option.bind_eq_some_iff.1 blank
    have networking : normalizeNetworking (spec.without .host).networking capabilities =
        normalizeNetworking spec.networking capabilities := by
      simp only [InstanceSpec.without, given, Option.map_some, normalizeNetworking,
        Option.getD_some, blank, empty]
      rfl
    simp only [normalize, networking]
    rfl
  | secretName => exact absurd rfl other

/-- Dropping an empty text drops it from the settings if it is the secret, and changes nothing about
them otherwise. -/
theorem normalize_dropBlank (name space : String) (spec : InstanceSpec) (field : TextField)
    (capabilities : Capabilities) :
    normalize name space (spec.dropBlank field) capabilities =
      if field = .secretName then (normalize name space spec capabilities).dropBlankSecret
      else normalize name space spec capabilities := by
  unfold InstanceSpec.dropBlank
  by_cases secret : field = .secretName
  · subst secret
    rw [if_pos rfl, dropBlankSecret, secretName_normalize]
    split
    · next blank =>
      obtain ⟨tls, given, _⟩ := Option.bind_eq_some_iff.1 blank
      obtain ⟨part, given, encrypted⟩ := Option.bind_eq_some_iff.1 given
      simp [normalize, normalizeImage, normalizeNetworking, InstanceSpec.without, withoutSecret,
        given, encrypted]
    · rfl
  · rw [if_neg secret]
    split
    · next blank => exact normalize_without name space capabilities blank secret
    · rfl

/-- Dropping empty texts drops the empty secret from the settings if it is among them, and changes
nothing else about them. -/
theorem normalize_dropBlanks (name space : String) (spec : InstanceSpec) (fields : List TextField)
    (capabilities : Capabilities) :
    normalize name space (spec.dropBlanks fields) capabilities =
      if .secretName ∈ fields then (normalize name space spec capabilities).dropBlankSecret
      else normalize name space spec capabilities := by
  unfold InstanceSpec.dropBlanks
  induction fields generalizing spec with
  | nil => rfl
  | cons field rest ih =>
    rw [List.foldl_cons, ih, normalize_dropBlank]
    by_cases here : field = .secretName <;> by_cases there : .secretName ∈ rest
    · simp [here, there, dropBlankSecret_dropBlankSecret]
    · simp [here, there]
    · simp [here, there, Ne.symm here]
    · simp [here, there, Ne.symm here]

end Settings

end Converge
