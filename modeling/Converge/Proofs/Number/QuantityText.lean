import Converge.Proofs.Number.QuantityGrammar
import Converge.Proofs.Number.Rounding

/-!
# The amounts of quantities

`Quantity.Overflows` says that the literal and the factor of a text stand for too great a number: the
literal by itself or, once it is rounded, its product with the factor. What is read of a text is a
finite number that is not negative, unless the text overflows (`Quantity.amount_of_parse?`).

Processor cores are read as quantities too. A literal without a unit is divided as it stands, and whole
thousandths before the suffix `m`.
-/

namespace Converge

namespace Quantity

/-! ## Factors -/

/-- Factors are finite and have no sign. -/
theorem isUnsigned_of_mem_units {suffix : List Char} {factor : Binary64}
    (listed : (suffix, factor) ∈ units) : factor.IsUnsigned := by
  have finite : ∀ unit ∈ units, unit.2.isFinite = true := by decide +kernel
  have signs : ∀ unit ∈ units, unit.2.abs = unit.2 := by decide +kernel
  have finite := finite _ listed
  have signs := signs _ listed
  cases factor with
  | finite negative significand exponent => exact ⟨significand, exponent, signs.symm⟩
  | infinite | nan => cases finite

/-! ## Amounts -/

/-- The zero without a sign is at most what has no sign or is zero. -/
theorem zero_le_finite_iff {negative : Bool} {significand : ℕ} {exponent : ℤ} :
    (Binary64.zero false).le (.finite negative significand exponent) = true ↔
      negative = false ∨ significand = 0 := by
  simp only [Binary64.le, Binary64.zero, Binary64.aligned, Nat.zero_shiftLeft, decide_eq_true_eq,
    Bool.false_eq_true, if_false, Nat.cast_zero]
  generalize min Binary64.minExponent exponent = lower
  have unit : significand <<< (exponent - lower).toNat = 0 ↔ significand = 0 := by
    simp [Nat.shiftLeft_eq]
  generalize significand <<< (exponent - lower).toNat = magnitude at unit ⊢
  cases negative with
  | false => simp
  | true =>
    simp only [if_true, reduceCtorEq, false_or]
    omega

/-- Of two finite values, one is at most the other. -/
theorem le_total_finite (s t : Bool) (m n : ℕ) (e f : ℤ) :
    (Binary64.finite s m e).le (.finite t n f) = true ∨
      (Binary64.finite t n f).le (.finite s m e) = true := by
  simp only [Binary64.le, decide_eq_true_eq, min_comm f e]
  exact Int.le_total _ _

/-- An amount is a finite value that has no sign or is zero. -/
theorem isAmount_finite_iff {negative : Bool} {significand : ℕ} {exponent : ℤ} :
    isAmount (.finite negative significand exponent) = true ↔
      negative = false ∨ significand = 0 := by
  have zero_le := @zero_le_finite_iff negative significand exponent
  rw [← zero_le]
  have total := le_total_finite negative false significand 0 exponent Binary64.minExponent
  rw [← Binary64.zero] at total
  unfold isAmount Binary64.lt
  cases above : (Binary64.zero false).le (.finite negative significand exponent) with
  | true => simp [Binary64.isFinite]
  | false =>
    rw [above] at total
    simp [total.resolve_right Bool.false_ne_true]

/-- What holds a number is an amount. -/
theorem isAmount_of_holds {value : Binary64} {q : ℚ} (holds : value.Holds q) :
    isAmount value = true := by
  obtain ⟨_, _, rfl, _, _⟩ := holds.exists_finite
  exact isAmount_finite_iff.2 (.inl rfl)

/-- An amount of the format holds a number, unless it is the zero with a sign. -/
theorem holds_of_isAmount {value : Binary64} (valid : isAmount value = true)
    (canonical : value.IsCanonical) : value.Holds value.magnitude ∨ value = .zero true := by
  cases value with
  | finite negative significand exponent =>
    rcases isAmount_finite_iff.1 valid with rfl | rfl
    · exact .inl ⟨⟨_, _, rfl⟩, canonical, rfl⟩
    · have least : exponent = Binary64.minExponent :=
        canonical.2.2.2.resolve_left (by decide)
      rw [least]
      cases negative with
      | false => exact .inl ⟨⟨_, _, rfl⟩, least ▸ canonical, rfl⟩
      | true => exact .inr rfl
  | infinite | nan => cases valid

/-- What has no sign is an amount or an infinity. -/
theorem isAmount_or_infinite {value : Binary64} (unsigned : value.HasSign false) :
    isAmount value = true ∨ value = .infinite false := by
  rcases unsigned with ⟨significand, exponent, rfl⟩ | infinite
  · exact .inl (isAmount_finite_iff.2 (.inl rfl))
  · exact .inr infinite

/-- An amount times a factor without a sign is an amount or an infinity. -/
theorem mul_cases {amount factor : Binary64} (valid : isAmount amount = true)
    (unsigned : factor.IsUnsigned) :
    isAmount (amount.mul factor) = true ∨ amount.mul factor = .infinite false := by
  obtain ⟨n, f, rfl⟩ := unsigned
  cases amount with
  | finite s m e =>
    rcases isAmount_finite_iff.1 valid with rfl | rfl
    · exact isAmount_or_infinite (Binary64.ofRatio_hasSign _ _ _)
    · -- A zero keeps its sign, and is an amount with any.
      refine .inl ?_
      have product : Binary64.mul (.finite s 0 e) (.finite false n f) = .zero s := by
        simp [Binary64.mul, Binary64.ofScaled, Binary64.ofRatio]
      rw [product, Binary64.zero, isAmount_finite_iff]
      exact .inr rfl
  | infinite | nan => cases valid

/-- So it is an amount exactly if the product of what they stand for is below the bound of
overflow. -/
theorem isAmount_mul_iff {amount factor : Binary64} (valid : isAmount amount = true)
    (unsigned : factor.IsUnsigned) :
    isAmount (amount.mul factor) = true ↔
      amount.magnitude * factor.magnitude < Binary64.overflowBound := by
  have finite : amount.isFinite = true := (Bool.and_eq_true_iff.1 valid).1
  have also : factor.isFinite = true := by
    obtain ⟨_, _, rfl⟩ := unsigned
    rfl
  rw [← Binary64.isFinite_mul_iff finite also]
  constructor
  · intro product
    exact (Bool.and_eq_true_iff.1 product).1
  · intro bounded
    refine (mul_cases valid unsigned).resolve_right fun infinite => ?_
    rw [infinite] at bounded
    cases bounded

/-! ## Reading an amount -/

/-- A literal in front of a unit without blanks is divided so. -/
theorem parts?_append {text : String} {number suffix : List Char} {literal : Literal}
    {factor : Binary64} (read : Literal.parse? number = some literal)
    (listed : (suffix, factor) ∈ units) (text_eq : text.toList = number ++ suffix) :
    parts? text = some (literal, factor) := by
  have spells := Literal.spells_of_parse? read
  have solid : ∀ unit ∈ units, unit.1.all (fun c => !Text.isBlank c) = true := by decide +kernel
  have trimmed : Text.trim text.toList = number ++ suffix := by
    rw [text_eq]
    refine Text.trim_eq_self (List.forall_mem_append.2 ⟨fun c inside => ?_, fun c inside => ?_⟩)
    · exact Literal.isBlank_of_isMark (spells.written.marks c inside)
    · simpa using List.all_eq_true.1 (solid _ listed) c inside
  exact parts?_eq_some_iff.2 ⟨⟨number, suffix, literal, factor, trimmed, listed, spells⟩, rfl, rfl⟩

/-- A text stands for too great a number: its literal does, or what the suffix makes of it does. -/
def Overflows (text : String) : Prop :=
  ∃ literal factor, parts? text = some (literal, factor) ∧
    (literal.Overflows ∨
      Binary64.overflowBound ≤ literal.toBinary64.magnitude * factor.magnitude)

/-- The factor of a text has no sign. -/
theorem factor_of_parts? {text : String} {literal : Literal} {factor : Binary64}
    (parts : parts? text = some (literal, factor)) :
    factor.IsUnsigned := by
  obtain ⟨division, _, rfl⟩ := parts?_eq_some_iff.1 parts
  exact isUnsigned_of_mem_units division.listed

/-- What is read of a text is an amount, unless the text overflows. Then it is an infinity. -/
theorem amount_of_parse? {text : String} {amount : Binary64} (read : parse? text = some amount) :
    (isAmount amount = true ∧ ¬ Overflows text) ∨ (amount = .infinite false ∧ Overflows text) := by
  rw [parse?_eq_bind] at read
  obtain ⟨⟨literal, factor⟩, parts, read⟩ := Option.bind_eq_some_iff.1 read
  dsimp only at read
  split at read
  · next valid =>
    cases read
    have unsigned := factor_of_parts? parts
    have finite : literal.toBinary64.isFinite = true := (Bool.and_eq_true_iff.1 valid).1
    have fits : ¬ literal.Overflows := by
      refine (Literal.isFinite_toBinary64_iff ?_).1 finite
      rintro rfl
      cases finite
    have overflows : Overflows text ↔
        Binary64.overflowBound ≤ literal.toBinary64.magnitude * factor.magnitude := by
      constructor
      · rintro ⟨_, _, others, beyond⟩
        cases parts.symm.trans others
        exact beyond.resolve_left fits
      · exact fun beyond => ⟨literal, factor, parts, .inr beyond⟩
    have bounded := isAmount_mul_iff valid unsigned
    rcases mul_cases valid unsigned with product | infinite
    · refine .inl ⟨product, fun beyond => ?_⟩
      exact absurd (bounded.1 product) (not_lt.2 (overflows.1 beyond))
    · refine .inr ⟨infinite, overflows.2 (not_lt.1 fun below => ?_)⟩
      have product := bounded.2 below
      rw [infinite] at product
      cases product
  · cases read

/-- It is a value of the format in any case. -/
theorem isCanonical_of_parse? {text : String} {amount : Binary64}
    (read : parse? text = some amount) : amount.IsCanonical := by
  obtain ⟨division, _, rfl⟩ := parse?_eq_some_iff.1 read
  exact Binary64.isCanonical_mul _ _

/-! ## Processor cores -/

/-- An unsigned integer of 64 bits is read as itself. -/
theorem parse?_of_isUnsigned64 {text : List Char} (valid : isUnsigned64 text = true) :
    ∃ n < UInt64.size, Literal.parse? text = some (.decimal false n 0) := by
  have unsigned {digits : List Char}
      (valid : (!digits.isEmpty && digits.all Char.isDigit &&
        decide (Literal.digitsValue digits < UInt64.size)) = true) :
      Literal.IsNumeral digits ∧ Literal.digitsValue digits < UInt64.size := by
    simpa [Literal.IsNumeral, and_assoc] using valid
  unfold isUnsigned64 at valid
  dsimp only at valid
  split at valid
  · obtain ⟨numeral, small⟩ := unsigned valid
    exact ⟨_, small, Literal.parse?_numeral .plus numeral⟩
  · obtain ⟨numeral, small⟩ := unsigned valid
    exact ⟨_, small, Literal.parse?_numeral .absent numeral⟩

/-- A value is not below zero if it is an amount or an infinity without a sign. -/
theorem zero_le_iff {value : Binary64} :
    (Binary64.zero false).le value = true ↔ isAmount value = true ∨ value = .infinite false := by
  cases value with
  | finite negative significand exponent =>
    rw [isAmount_finite_iff, zero_le_finite_iff]
    exact (or_iff_left (by simp)).symm
  | infinite negative => simp [Binary64.le, Binary64.zero, isAmount, Binary64.isFinite]
  | nan => simp [Binary64.le, Binary64.zero, isAmount, Binary64.isFinite]

/-- Neither having no suffix nor the suffix of thousandths makes a number greater. -/
theorem magnitude_factor_le {factor : Binary64}
    (small : factor = .ofNat 1 ∨ factor = .ofRatio false 1 1000) : factor.magnitude ≤ 1 := by
  rcases small with rfl | rfl
  · have one : Binary64.ofNat 1 = .finite false 0x10000000000000 (-52) := by decide
    rw [one]
    norm_num [Binary64.magnitude]
  · have thousandth : Binary64.ofRatio false 1 1000 = .finite false 4611686018427388 (-62) := by
      decide
    rw [thousandth]
    norm_num [Binary64.magnitude]

/-- An amount of processor cores is made of a literal that is an amount or infinite, and of a factor
that does not make it greater. -/
theorem parts?_of_isCores {text : String} (valid : isCores text = true) :
    ∃ literal factor, parts? text = some (literal, factor) ∧ factor.magnitude ≤ 1 ∧
      (isAmount literal.toBinary64 = true ∨ literal.toBinary64 = .infinite false) := by
  unfold isCores at valid
  split at valid
  · next number suffixed =>
    obtain ⟨n, small, read⟩ := parse?_of_isUnsigned64 valid
    have listed : (['m'], Binary64.ofRatio false 1 1000) ∈ units := by decide +kernel
    refine ⟨_, _, parts?_append read listed (Text.dropEnding?_eq_some_iff.1 suffixed),
      magnitude_factor_le (.inr rfl), ?_⟩
    exact isAmount_or_infinite (Literal.decimalValue_hasSign false n 0)
  · split at valid
    · next value found =>
      obtain ⟨literal, read, rfl⟩ := Option.map_eq_some_iff.1 found
      exact ⟨_, _, parts?_append read List.mem_cons_self (List.append_nil _).symm,
        magnitude_factor_le (.inl rfl), zero_le_iff.1 valid⟩
    · cases valid

/-- An amount of processor cores is read as an amount, unless it overflows. Then it is not read. -/
theorem amount_of_isCores {text : String} (valid : isCores text = true) :
    (∃ amount, parse? text = some amount ∧ isAmount amount = true ∧ ¬ Overflows text) ∨
      (parse? text = none ∧ Overflows text) := by
  obtain ⟨literal, factor, parts, small, amount | infinite⟩ := parts?_of_isCores valid
  · have read : parse? text = some (literal.toBinary64.mul factor) := by
      rw [parse?_eq_bind, parts, Option.bind_some]
      exact if_pos amount
    have product : isAmount (literal.toBinary64.mul factor) = true := by
      refine (isAmount_mul_iff amount (factor_of_parts? parts)).2 ?_
      calc literal.toBinary64.magnitude * factor.magnitude
          ≤ literal.toBinary64.magnitude * 1 :=
            mul_le_mul_of_nonneg_left small (Binary64.magnitude_nonneg _)
        _ = literal.toBinary64.magnitude := mul_one _
        _ < Binary64.overflowBound :=
            Binary64.magnitude_lt_overflowBound literal.isCanonical_toBinary64
    rcases amount_of_parse? read with ⟨_, fits⟩ | ⟨infinite, _⟩
    · exact .inl ⟨_, read, product, fits⟩
    · rw [infinite] at product
      cases product
  · have overflows : literal.Overflows := by
      by_contra fits
      have finite := (Literal.isFinite_toBinary64_iff (fun nan => ?_)).2 fits
      · rw [infinite] at finite
        cases finite
      · rw [nan] at infinite
        cases infinite
    refine .inr ⟨?_, literal, factor, parts, .inl overflows⟩
    rw [parse?_eq_bind, parts, Option.bind_some]
    dsimp only
    rw [infinite]
    rfl

end Quantity

end Converge
