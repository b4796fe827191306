import Converge.Proofs.Instance.Validation
import Converge.Proofs.Number.QuantityText

/-!
# Amounts of a specification that is accepted

Validation looks at every amount of processor cores with one check and at every amount of bytes with
another (`InstanceSpec.validate_eq_ok_iff`). An amount that passes its check is a finite number that
is not negative, unless it overflows. The check of cores lets an infinite number pass, which is then
not read as a quantity; the check of bytes looks at the number in front of the suffix, so that an
amount may become infinite by the suffix: `InstanceSpec.accepted_amounts_finite_unless_overflow`.
-/

namespace Converge.InstanceSpec

open Quantity (parse_eq_ok_iff)

/-- The amounts on both sides of the resources. -/
def amounts (spec : InstanceSpec) : List ResourceAmounts :=
  (spec.resources.map fun needs => needs.requests.toList ++ needs.limits.toList).getD []

/-- The amounts of processor cores. -/
def cores (spec : InstanceSpec) : List String := spec.amounts.flatMap (·.cpu.toList)

/-- The amounts of bytes: those of memory, and the size of the volume unless it is empty. -/
def sizes (spec : InstanceSpec) : List String :=
  spec.amounts.flatMap (·.memory.toList) ++
    (Settings.nonEmpty (spec.persistence.bind (·.volumeSize))).toList

/-! ## What is checked -/

variable {spec : InstanceSpec}

/-- Every check of a specification that is accepted is passed. -/
theorem passed_of_mem {owner field : String} {result : Except String Unit}
    (valid : spec.validate owner = .ok ()) (inside : ⟨field, result⟩ ∈ spec.checks) :
    result = .ok () :=
  validate_eq_ok_iff.1 valid _ inside

/-- The amounts on each side are checked. -/
theorem exists_amountChecks {amounts : ResourceAmounts} (given : amounts ∈ spec.amounts) :
    ∃ side, ∀ check ∈ amountChecks side amounts, check ∈ spec.checks := by
  have within {needs : ResourceNeeds} (resources : spec.resources = some needs) {check : Check}
      (inside : check ∈ resourceChecks needs) : check ∈ spec.checks := by
    refine List.mem_cons_of_mem _ (List.mem_append_left _ (List.mem_append_right _ ?_))
    rw [resources]
    exact inside
  cases resources : spec.resources with
  | none =>
    rw [InstanceSpec.amounts, resources] at given
    cases given
  | some needs =>
    rw [InstanceSpec.amounts, resources] at given
    rcases List.mem_append.1 given with request | limit
    · refine ⟨"requests", fun check inside => within resources (List.mem_append_left _ ?_)⟩
      rw [Option.mem_toList.1 request]
      exact inside
    · refine ⟨"limits", fun check inside => within resources (List.mem_append_right _ ?_)⟩
      rw [Option.mem_toList.1 limit]
      exact inside

/-- Every amount of processor cores is checked. -/
theorem checkCores_of_validate {owner quantity : String} (valid : spec.validate owner = .ok ())
    (given : quantity ∈ spec.cores) : Quantity.checkCores quantity = .ok () := by
  obtain ⟨amounts, listed, cpu⟩ := List.mem_flatMap.1 given
  obtain ⟨side, checked⟩ := exists_amountChecks listed
  have inside : ⟨s!"spec.resources.{side}.cpu", Quantity.checkCores quantity⟩ ∈
      amountChecks side amounts := by
    refine List.mem_append_left _ ?_
    rw [Option.mem_toList.1 cpu, Option.map_some, Option.toList_some]
    exact List.mem_singleton_self _
  exact passed_of_mem valid (checked _ inside)

/-- Every amount of bytes is checked. -/
theorem checkMemory_of_validate {owner quantity : String} (valid : spec.validate owner = .ok ())
    (given : quantity ∈ spec.sizes) : Quantity.checkMemory quantity = .ok () := by
  rcases List.mem_append.1 given with memory | volume
  · obtain ⟨amounts, listed, memory⟩ := List.mem_flatMap.1 memory
    obtain ⟨side, checked⟩ := exists_amountChecks listed
    have inside : ⟨s!"spec.resources.{side}.memory", Quantity.checkMemory quantity⟩ ∈
        amountChecks side amounts := by
      refine List.mem_append_right _ ?_
      rw [Option.mem_toList.1 memory, Option.map_some, Option.toList_some]
      exact List.mem_singleton_self _
    exact passed_of_mem valid (checked _ inside)
  · obtain ⟨size, given⟩ := Settings.nonEmpty_eq_some_iff.1 (Option.mem_toList.1 volume)
    obtain ⟨persistence, persists, size⟩ := Option.bind_eq_some_iff.1 size
    have inside : ⟨"spec.persistence.volumeSize", Quantity.checkMemory quantity⟩ ∈ spec.checks := by
      refine List.mem_cons_of_mem _ (List.mem_append_right _ ?_)
      simp [persists, sizeChecks, size, given]
    exact passed_of_mem valid inside

/-! ## What the checks let pass -/

/-- The amounts of a specification that is accepted are finite numbers that are not negative, unless
they overflow. An amount of processor cores that does is refused when it is read as a quantity; an
amount of bytes is read as infinite. -/
theorem accepted_amounts_finite_unless_overflow {spec : InstanceSpec} {owner : String}
    (valid : spec.validate owner = .ok ()) :
    (∀ quantity ∈ spec.cores ++ spec.sizes,
        (∃ amount, Quantity.parse quantity = .ok amount ∧ Quantity.isAmount amount = true) ↔
          ¬ Quantity.Overflows quantity) ∧
      (∀ quantity ∈ spec.cores, Quantity.Overflows quantity →
        Quantity.parse quantity = .error (Quantity.invalidMessage quantity)) ∧
      (∀ quantity ∈ spec.sizes, Quantity.Overflows quantity →
        Quantity.parse quantity = .ok (.infinite false)) := by
  have cores (quantity : String) (given : quantity ∈ spec.cores) :=
    Quantity.amount_of_isCores
      (Quantity.checkCores_eq_ok_iff_isCores.1 (checkCores_of_validate valid given))
  have sizes (quantity : String) (given : quantity ∈ spec.sizes) :=
    Quantity.checkMemory_eq_ok_iff_exists.1 (checkMemory_of_validate valid given)
  simp only [parse_eq_ok_iff]
  refine ⟨fun quantity given => ?_, fun quantity given beyond => ?_, fun quantity given beyond => ?_⟩
  · constructor
    · rintro ⟨amount, read, finite⟩ beyond
      rcases Quantity.amount_of_parse? read with ⟨_, fits⟩ | ⟨infinite, _⟩
      · exact fits beyond
      · rw [infinite] at finite
        cases finite
    · intro fits
      rcases List.mem_append.1 given with core | size
      · rcases cores quantity core with ⟨amount, read, finite, _⟩ | ⟨_, beyond⟩
        · exact ⟨amount, read, finite⟩
        · exact absurd beyond fits
      · obtain ⟨amount, read⟩ := sizes quantity size
        rcases Quantity.amount_of_parse? read with ⟨finite, _⟩ | ⟨_, beyond⟩
        · exact ⟨amount, read, finite⟩
        · exact absurd beyond fits
  · rcases cores quantity given with ⟨_, _, _, fits⟩ | ⟨refused, _⟩
    · exact absurd beyond fits
    · unfold Quantity.parse
      rw [refused]
  · obtain ⟨amount, read⟩ := sizes quantity given
    rcases Quantity.amount_of_parse? read with ⟨_, fits⟩ | ⟨infinite, _⟩
    · exact absurd beyond fits
    · rw [read, infinite]

/-- A specification with ordinary requests and limits beyond the format. -/
def boundlessSpec : InstanceSpec :=
  { InstanceSpec.blank with
    resources :=
      some
        { requests := some ⟨some "500m", some "2Gi"⟩
          limits := some ⟨some "inf", some "1e308Ei"⟩ } }

/-- Its requests do not overflow, but its limits do: one of them is refused when it is read, and the
other one is no finite number. -/
theorem amounts_of_boundlessSpec :
    ¬ Quantity.Overflows "500m" ∧ ¬ Quantity.Overflows "2Gi" ∧ Quantity.Overflows "inf" ∧
      Quantity.Overflows "1e308Ei" := by
  have valid : boundlessSpec.validate "nexus3" = .ok () := by decide +kernel
  obtain ⟨finite, _, _⟩ := accepted_amounts_finite_unless_overflow valid
  have quantities : boundlessSpec.cores ++ boundlessSpec.sizes =
      ["500m", "inf", "2Gi", "1e308Ei"] := rfl
  simp only [quantities, List.forall_mem_cons] at finite
  obtain ⟨cores, infinite, memory, scaled, _⟩ := finite
  refine ⟨?_, ?_, ?_, ?_⟩
  · have half : Quantity.parse "500m" = .ok (.finite false 0x10000000000000 (-53)) := by
      decide +kernel
    exact cores.1 ⟨_, half, by decide⟩
  · have bytes : Quantity.parse "2Gi" = .ok (.finite false 0x10000000000000 (-21)) := by
      decide +kernel
    exact memory.1 ⟨_, bytes, by decide⟩
  · by_contra fits
    obtain ⟨amount, read, _⟩ := infinite.2 fits
    have refused : Quantity.parse "inf" = .error (Quantity.invalidMessage "inf") := by decide +kernel
    cases refused.symm.trans read
  · by_contra fits
    obtain ⟨amount, read, valid⟩ := scaled.2 fits
    have infinite : Quantity.parse "1e308Ei" = .ok (.infinite false) := by decide +kernel
    cases infinite.symm.trans read
    cases valid

/-- It is accepted, though the limit of cores is not read as a quantity and that of memory is read as
infinite. -/
theorem boundlessSpec_accepted :
    boundlessSpec.validate "nexus3" = .ok () ∧
      "inf" ∈ boundlessSpec.cores ∧
      Quantity.parse "inf" = .error (Quantity.invalidMessage "inf") ∧
      "1e308Ei" ∈ boundlessSpec.sizes ∧
      Quantity.parse "1e308Ei" = .ok (.infinite false) :=
  ⟨by decide +kernel, by decide, by decide +kernel, by decide, by decide +kernel⟩

end Converge.InstanceSpec
