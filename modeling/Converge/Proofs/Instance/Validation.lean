import Converge.Instance.Settings
import Converge.Instance.Validation

/-!
# The first fault

Validation makes its checks in a fixed order and reports the first one that fails: those before it
are passed, and what stands behind it does not matter (`InstanceSpec.firstFault_eq_error_iff`).

Normalization has rules of its own for the fields that are checked. It fills in a part only where
validation finds nothing to check, and what it fills in passes every check, so that settings are
accepted, or refused for the same fault, exactly as the specification that they were made from:
`Settings.validate_toSpec`.
-/

namespace Converge

namespace InstanceSpec

variable {owner : String}

/-! ## One check after the other -/

/-- There is no first fault exactly if no check fails. -/
theorem firstFault_eq_ok_iff {checks : List Check} :
    firstFault owner checks = .ok () ↔ ∀ check ∈ checks, check.result = .ok () := by
  induction checks with
  | nil => simp [firstFault]
  | cons check rest ih =>
    rw [List.forall_mem_cons, firstFault]
    cases result : check.result with
    | ok _ => simpa using ih
    | error message => simp

/-- The first fault is that of a check that fails, where all checks before it are passed. -/
theorem firstFault_eq_error_iff {checks : List Check} {failure : Failure} :
    firstFault owner checks = .error failure ↔
      ∃ before check after message, checks = before ++ check :: after ∧
        (∀ earlier ∈ before, earlier.result = .ok ()) ∧ check.result = .error message ∧
        failure = .invalidField owner check.field message := by
  induction checks with
  | nil => simp [firstFault]
  | cons check rest ih =>
    rw [firstFault]
    cases result : check.result with
    | ok _ =>
      dsimp only
      rw [ih]
      constructor
      · rintro ⟨before, faulty, after, message, rfl, passed, fails, told⟩
        refine ⟨check :: before, faulty, after, message, rfl, ?_, fails, told⟩
        exact List.forall_mem_cons.2 ⟨result, passed⟩
      · rintro ⟨before, faulty, after, message, split, passed, fails, told⟩
        cases before with
        | nil =>
          cases split
          cases result.symm.trans fails
        | cons first before =>
          cases split
          exact ⟨before, faulty, after, message, rfl, (List.forall_mem_cons.1 passed).2, fails, told⟩
    | error message =>
      constructor
      · rintro ⟨⟩
        exact ⟨[], check, rest, message, rfl, fun _ inside => absurd inside List.not_mem_nil,
          result, rfl⟩
      · rintro ⟨before, faulty, after, other, split, passed, fails, rfl⟩
        cases before with
        | nil =>
          cases split
          cases result.symm.trans fails
          rfl
        | cons first before =>
          cases split
          cases result.symm.trans (List.forall_mem_cons.1 passed).1

/-- Further checks are made where none has failed. -/
theorem firstFault_append (checks rest : List Check) :
    firstFault owner (checks ++ rest) =
      (firstFault owner checks).bind fun _ => firstFault owner rest := by
  induction checks with
  | nil => rfl
  | cons check others ih =>
    rw [List.cons_append, firstFault, firstFault]
    cases check.result with
    | ok _ => exact ih
    | error message => rfl

/-- A specification is accepted exactly if it passes all checks. -/
theorem validate_eq_ok_iff {spec : InstanceSpec} :
    spec.validate owner = .ok () ↔ ∀ check ∈ spec.checks, check.result = .ok () :=
  firstFault_eq_ok_iff

/-- Whether it is accepted does not depend on the instance that a fault would be told of. -/
theorem validate_eq_ok_congr {spec : InstanceSpec} (valid : spec.validate owner = .ok ())
    (other : String) : spec.validate other = .ok () :=
  validate_eq_ok_iff.2 (validate_eq_ok_iff.1 valid)

/-- A specification is refused for the fault of one of its fields, which is told of the instance. -/
theorem exists_field_of_validate {spec : InstanceSpec} {failure : Failure}
    (refused : spec.validate owner = .error failure) :
    ∃ field message, failure = .invalidField owner field message := by
  obtain ⟨_, check, _, message, _, _, _, told⟩ := firstFault_eq_error_iff.1 refused
  exact ⟨check.field, message, told⟩

/-! ## Parts that are filled in -/

/-- Where no amount is given, there is nothing to check. -/
theorem amountChecks_of_isEmpty {amounts : ResourceAmounts} (empty : amounts.isEmpty = true)
    (side : String) : amountChecks side amounts = [] := by
  obtain ⟨cpu, memory⟩ := amounts
  obtain ⟨cores, bytes⟩ := Bool.and_eq_true_iff.1 empty
  simp only [Option.isNone_iff_eq_none] at cores bytes
  simp only [amountChecks, cores, bytes, Option.map_none, Option.toList_none, List.append_nil]

/-- So it is where none is given on either side. -/
theorem resourceChecks_of_isEmpty {needs : ResourceNeeds} (empty : needs.isEmpty = true) :
    resourceChecks needs = [] := by
  obtain ⟨requests, limits⟩ := needs
  obtain ⟨requested, limited⟩ := Bool.and_eq_true_iff.1 empty
  have unchecked {amounts : Option ResourceAmounts} (side : String)
      (none : amounts.all ResourceAmounts.isEmpty = true) :
      (amounts.map (amountChecks side)).getD [] = [] := by
    cases amounts with
    | none => rfl
    | some amounts => exact amountChecks_of_isEmpty none side
  rw [resourceChecks, unchecked "requests" requested, unchecked "limits" limited, List.append_nil]

/-- The resources that are taken where no amount is given have no fault. -/
theorem firstFault_defaultResources :
    firstFault owner (resourceChecks Settings.defaultResources) = .ok () := rfl

/-- The resources of settings have the faults of those that were given. -/
theorem firstFault_normalizeResources (needs : Option ResourceNeeds) :
    firstFault owner (resourceChecks (Settings.normalizeResources needs)) =
      firstFault owner ((needs.map resourceChecks).getD []) := by
  cases needs with
  | none => exact firstFault_defaultResources
  | some needs =>
    rw [Settings.normalizeResources, Option.map_some, Option.getD_some]
    split
    · next empty =>
      rw [resourceChecks_of_isEmpty empty]
      exact firstFault_defaultResources
    · rfl

/-- The size of the volume is checked unless it is absent or empty. -/
theorem sizeChecks_eq_map (persistence : PersistenceSpec) :
    sizeChecks persistence =
      (Settings.nonEmpty persistence.volumeSize).toList.map fun size =>
        ⟨"spec.persistence.volumeSize", Quantity.checkMemory size⟩ := by
  unfold sizeChecks
  cases persistence.volumeSize with
  | none => rfl
  | some size =>
    by_cases blank : size.isEmpty = true
    · simp [Settings.nonEmpty, Option.filter_some, blank]
    · simp [Settings.nonEmpty, Option.filter_some, blank]

/-- The size that is taken where none is given is one. -/
theorem checkMemory_defaultVolumeSize :
    Quantity.checkMemory Settings.defaultVolumeSize = .ok () := rfl

/-- The persistence of settings has the faults of the one that was given. -/
theorem firstFault_normalizePersistence (persistence : Option PersistenceSpec) :
    firstFault owner (sizeChecks
        { persistent := (Settings.normalizePersistence persistence).persistent
          volumeSize := some (Settings.normalizePersistence persistence).volumeSize
          storageClass := (Settings.normalizePersistence persistence).storageClass }) =
      firstFault owner ((persistence.map sizeChecks).getD []) := by
  have given : (persistence.map sizeChecks).getD [] = sizeChecks (persistence.getD .blank) := by
    cases persistence <;> rfl
  rw [given, sizeChecks_eq_map, sizeChecks_eq_map]
  dsimp only [Settings.normalizePersistence]
  cases taken : Settings.nonEmpty (persistence.getD .blank).volumeSize with
  | none =>
    have filled : Settings.nonEmpty (some Settings.defaultVolumeSize) =
        some Settings.defaultVolumeSize :=
      Settings.nonEmpty_eq_some_iff.2 ⟨rfl, by decide⟩
    rw [Option.getD_none, filled, Option.toList_some, List.map_singleton, firstFault,
      checkMemory_defaultVolumeSize]
    rfl
  | some size =>
    have kept : Settings.nonEmpty (some size) = some size :=
      Settings.nonEmpty_eq_some_iff.2 ⟨rfl, (Settings.nonEmpty_eq_some_iff.1 taken).2⟩
    rw [Option.getD_some, kept]

end InstanceSpec

namespace Settings

/-- Validation finds of settings what it finds of the specification that they were made from: both
are accepted, or both are refused for the same fault of the same field. -/
theorem validate_toSpec (name space : String) (spec : InstanceSpec) (capabilities : Capabilities)
    (owner : String) :
    (normalize name space spec capabilities).toSpec.validate owner = spec.validate owner := by
  -- Only the last two groups of checks see a part that normalization changes.
  have grouped (spec : InstanceSpec) : spec.checks =
      (InstanceSpec.replicasCheck spec ::
          (spec.credentials.map InstanceSpec.credentialChecks).getD []) ++
        (spec.resources.map InstanceSpec.resourceChecks).getD [] ++
        (spec.persistence.map InstanceSpec.sizeChecks).getD [] := rfl
  simp only [InstanceSpec.validate, grouped, InstanceSpec.firstFault_append]
  rw [← InstanceSpec.firstFault_normalizeResources spec.resources,
    ← InstanceSpec.firstFault_normalizePersistence spec.persistence]
  rfl

end Settings

end Converge
