import Converge.Number.Literal
import Mathlib.Algebra.Order.Field.Power
import Mathlib.Data.Rat.Cast.Order
import Mathlib.Tactic.Linarith
import Mathlib.Tactic.NormNum
import Mathlib.Tactic.Positivity
import Mathlib.Tactic.Ring

/-!
# The range of the format

A rounded ratio is finite exactly if it is below `Binary64.overflowBound`, the middle between the
greatest finite value and the power of two after it (`Binary64.isFinite_ofRatio_iff`). From this
follows when a product overflows (`Binary64.isFinite_mul_iff`) and when a decimal does
(`Literal.isFinite_toBinary64_iff`). The ratios are those of rational numbers: `Binary64.magnitude`
is the rational number that a finite value stands for, without its sign.
-/

namespace Converge

namespace Binary64

/-- The least magnitude that is rounded to an infinity. -/
def overflowBound : ℚ := (2 * leastFull - 1 / 2) * 2 ^ maxExponent

theorem overflowBound_pos : 0 < overflowBound := by
  have unit : (0 : ℚ) < 2 ^ maxExponent := by positivity
  exact mul_pos (by norm_num [leastFull]) unit

/-- Small whole numbers are below the bound. -/
theorem natCast_lt_overflowBound {n : ℕ} (small : n < 2 * leastFull) : (n : ℚ) < overflowBound := by
  have unit : (1 : ℚ) ≤ 2 ^ maxExponent := one_le_zpow₀ one_le_two (by decide)
  have below : (n + 1 : ℚ) ≤ 2 * leastFull := by exact_mod_cast small
  have full : (n : ℚ) < 2 * leastFull - 1 / 2 := by linarith
  exact full.trans_le (le_mul_of_one_le_right (n.cast_nonneg.trans full.le) unit)

theorem one_lt_overflowBound : 1 < overflowBound := by
  exact_mod_cast natCast_lt_overflowBound (n := 1) (by decide)

/-- A decimal of more than 310 places before the point is beyond the bound. -/
theorem overflowBound_le : overflowBound ≤ 10 ^ (310 : ℤ) := by
  calc overflowBound ≤ 2 ^ (54 : ℤ) * 2 ^ maxExponent := by
        unfold overflowBound
        gcongr
        norm_num [leastFull]
    _ = 2 ^ (205 * 5 : ℤ) := (zpow_add₀ two_ne_zero 54 971).symm
    _ = (2 ^ (205 : ℤ)) ^ (5 : ℤ) := zpow_mul 2 205 5
    _ ≤ (10 ^ (62 : ℤ)) ^ (5 : ℤ) := by
        refine zpow_le_zpow_left₀ (by decide) (by positivity) ?_
        norm_num
    _ = 10 ^ (310 : ℤ) := (zpow_mul 10 62 5).symm

/-- The magnitude of a finite value as a rational number. -/
def magnitude : Binary64 → ℚ
  | .finite _ significand exponent => significand * 2 ^ exponent
  | .infinite _ | .nan => 0

/-! ## Scaling and rounding to an integer -/

/-- Numerator and denominator are divided as the ratio is. -/
theorem dividePow_div (numerator denominator : ℕ) (power : ℤ) :
    ((dividePow numerator denominator power).1 : ℚ) / (dividePow numerator denominator power).2 =
      numerator / denominator / 2 ^ power := by
  obtain ⟨k, rfl | rfl⟩ := power.eq_nat_or_neg
  · simp [dividePow, Nat.shiftLeft_eq, div_div]
  · simp [dividePow, Nat.shiftLeft_eq, div_mul_eq_mul_div]

theorem dividePow_snd_pos (numerator : ℕ) {denominator : ℕ} (positive : 0 < denominator)
    (power : ℤ) : 0 < (dividePow numerator denominator power).2 := by
  change 0 < denominator <<< power.toNat
  rw [Nat.shiftLeft_eq]
  exact Nat.mul_pos positive (Nat.two_pow_pos _)

/-- A ratio lies between the power of two that its logarithm says and the next one. -/
theorem floorLog2_spec {numerator denominator : ℕ} (nonzero : numerator ≠ 0)
    (positive : 0 < denominator) :
    (2 : ℚ) ^ floorLog2 numerator denominator ≤ numerator / denominator ∧
      (numerator / denominator : ℚ) < 2 ^ (floorLog2 numerator denominator + 1) := by
  have divides : (0 : ℚ) < denominator := by exact_mod_cast positive
  have log_le {n : ℕ} (nonzero : n ≠ 0) : (2 : ℚ) ^ (n.log2 : ℤ) ≤ n := by
    exact_mod_cast Nat.log2_self_le nonzero
  have lt_log (n : ℕ) : (n : ℚ) < 2 ^ (n.log2 + 1 : ℤ) := by
    exact_mod_cast Nat.lt_log2_self
  -- The logarithms of the parts leave two powers of two to choose from.
  let guess : ℤ := numerator.log2 - denominator.log2
  have least : (2 : ℚ) ^ (guess - 1) ≤ numerator / denominator := by
    rw [le_div_iff₀ divides]
    calc (2 : ℚ) ^ (guess - 1) * denominator
        ≤ 2 ^ (guess - 1) * 2 ^ (denominator.log2 + 1 : ℤ) := by
          gcongr
          exact (lt_log denominator).le
      _ = 2 ^ (numerator.log2 : ℤ) := by
          rw [← zpow_add₀ two_ne_zero]
          congr 1
          omega
      _ ≤ numerator := log_le nonzero
  have greatest : (numerator / denominator : ℚ) < 2 ^ (guess + 1) := by
    rw [div_lt_iff₀ divides]
    calc (numerator : ℚ) < 2 ^ (numerator.log2 + 1 : ℤ) := lt_log numerator
      _ = 2 ^ (guess + 1) * 2 ^ (denominator.log2 : ℤ) := by
          rw [← zpow_add₀ two_ne_zero]
          congr 1
          omega
      _ ≤ 2 ^ (guess + 1) * denominator := by
          gcongr
          exact log_le positive.ne'
  have compares : (dividePow numerator denominator guess).1 <
      (dividePow numerator denominator guess).2 ↔ (numerator / denominator : ℚ) < 2 ^ guess := by
    have scaled : (0 : ℚ) < (dividePow numerator denominator guess).2 := by
      exact_mod_cast dividePow_snd_pos numerator positive guess
    have unit : (0 : ℚ) < 2 ^ guess := by positivity
    rw [← div_lt_one unit, ← dividePow_div, div_lt_one scaled, Nat.cast_lt]
  unfold floorLog2
  dsimp only
  split
  · next below =>
    exact ⟨least, by simpa using compares.1 below⟩
  · next above => exact ⟨not_lt.1 (mt compares.2 above), greatest⟩

/-- A ratio is rounded to less than an even number exactly if it is nearer to a lesser one, as a tie
goes to the even number. -/
theorem nearestEven_lt_iff {numerator denominator : ℕ} (positive : 0 < denominator) {bound : ℕ}
    (even : bound % 2 = 0) :
    nearestEven numerator denominator < bound ↔
      (numerator / denominator : ℚ) < bound - 1 / 2 := by
  have divides : (0 : ℚ) < denominator := by exact_mod_cast positive
  have division : denominator * (numerator / denominator) + numerator % denominator = numerator :=
    Nat.div_add_mod _ _
  have less : numerator % denominator < denominator := Nat.mod_lt _ positive
  have doubled : (numerator / denominator : ℚ) < bound - 1 / 2 ↔
      2 * numerator + denominator < 2 * bound * denominator := by
    rw [div_lt_iff₀ divides, ← Nat.cast_lt (α := ℚ)]
    push_cast
    constructor <;> intro below <;> linarith
  rw [doubled, nearestEven]
  generalize numerator / denominator = quotient at *
  generalize numerator % denominator = remainder at *
  subst division
  rcases lt_trichotomy (quotient + 1) bound with small | rfl | large
  · have least := Nat.mul_le_mul_right denominator (show quotient + 2 ≤ bound by omega)
    refine iff_of_true ?_ (by linarith)
    split <;> omega
  · -- The ratio is at most half a unit away from the bound: this is where ties matter.
    have nearer : 2 * (denominator * quotient + remainder) + denominator <
        2 * (quotient + 1) * denominator ↔ 2 * remainder < denominator := by
      constructor <;> intro below <;> linarith
    rw [nearer]
    split <;> omega
  · have greatest := Nat.mul_le_mul_right denominator (show bound ≤ quotient by omega)
    refine iff_of_false ?_ (by linarith)
    split <;> omega

/-- A ratio is not rounded below a whole number that it reaches. -/
theorem le_nearestEven {numerator denominator bound : ℕ} (positive : 0 < denominator)
    (above : (bound : ℚ) ≤ numerator / denominator) : bound ≤ nearestEven numerator denominator := by
  have divides : (0 : ℚ) < denominator := by exact_mod_cast positive
  have above : bound ≤ numerator / denominator := by
    rw [Nat.le_div_iff_mul_le positive]
    exact_mod_cast (le_div_iff₀ divides).1 above
  unfold nearestEven
  dsimp only
  split <;> omega

/-- A ratio is not rounded above a whole number that it does not exceed. -/
theorem nearestEven_le {numerator denominator bound : ℕ} (positive : 0 < denominator)
    (below : (numerator / denominator : ℚ) ≤ bound) : nearestEven numerator denominator ≤ bound := by
  have divides : (0 : ℚ) < denominator := by exact_mod_cast positive
  have below : numerator ≤ bound * denominator := by exact_mod_cast (div_le_iff₀ divides).1 below
  have quotient : numerator / denominator ≤ bound := Nat.div_le_of_le_mul (by rwa [mul_comm])
  have division : denominator * (numerator / denominator) + numerator % denominator = numerator :=
    Nat.div_add_mod _ _
  unfold nearestEven
  dsimp only
  rcases quotient.lt_or_eq with less | equal
  · split <;> omega
  · -- Nothing remains, so nothing is rounded up.
    have rest : numerator % denominator = 0 := by
      rw [equal, mul_comm] at division
      omega
    rw [equal, rest]
    split <;> omega

/-! ## Rounding to the format -/

/-- The exponent that a ratio is rounded with. -/
def roundingExponent (numerator denominator : ℕ) : ℤ :=
  Max.max (floorLog2 numerator denominator - 52) minExponent

/-- The significand that a ratio is rounded to, before a carry. -/
def roundedSignificand (numerator denominator : ℕ) : ℕ :=
  let scaled := dividePow numerator denominator (roundingExponent numerator denominator)
  nearestEven scaled.1 scaled.2

theorem ofRatio_eq_pack {numerator : ℕ} (nonzero : numerator ≠ 0) (negative : Bool)
    (denominator : ℕ) :
    ofRatio negative numerator denominator =
      pack negative (roundedSignificand numerator denominator)
        (roundingExponent numerator denominator) :=
  if_neg nonzero

section Rounding

variable {numerator denominator : ℕ} (nonzero : numerator ≠ 0) (positive : 0 < denominator)

include nonzero positive

/-- In units of its exponent a ratio is below the first power of two that does not fit, and it fills
the significand unless the exponent is the least. -/
theorem scaled_bounds :
    (numerator / denominator / 2 ^ roundingExponent numerator denominator : ℚ) <
        (2 * leastFull : ℕ) ∧
      ((leastFull : ℚ) ≤ numerator / denominator / 2 ^ roundingExponent numerator denominator ∨
        roundingExponent numerator denominator = minExponent) := by
  obtain ⟨least, greatest⟩ := floorLog2_spec nonzero positive
  have unit : (0 : ℚ) < 2 ^ roundingExponent numerator denominator := by positivity
  constructor
  · rw [div_lt_iff₀ unit]
    calc (numerator / denominator : ℚ) < 2 ^ (floorLog2 numerator denominator + 1) := greatest
      _ ≤ 2 ^ (53 + roundingExponent numerator denominator) := by
          refine zpow_le_zpow_right₀ one_le_two ?_
          have := le_max_left (floorLog2 numerator denominator - 52) minExponent
          unfold roundingExponent
          omega
      _ = (2 * leastFull : ℕ) * 2 ^ roundingExponent numerator denominator := by
          rw [zpow_add₀ two_ne_zero]
          norm_num [leastFull]
  · rcases max_cases (floorLog2 numerator denominator - 52) minExponent with ⟨taken, _⟩ | ⟨taken, _⟩
    · refine .inl ?_
      rw [le_div_iff₀ unit]
      calc (leastFull : ℚ) * 2 ^ roundingExponent numerator denominator
          = 2 ^ floorLog2 numerator denominator := by
            rw [roundingExponent, taken, zpow_sub₀ two_ne_zero]
            norm_num [leastFull]
            ring
        _ ≤ numerator / denominator := least
    · exact .inr taken

/-- The significand fits in 53 bits or carries into one more, and has all of the 53 unless the
exponent is the least. -/
theorem roundedSignificand_bounds :
    roundedSignificand numerator denominator ≤ 2 * leastFull ∧
      (leastFull ≤ roundedSignificand numerator denominator ∨
        roundingExponent numerator denominator = minExponent) := by
  obtain ⟨fits, full⟩ := scaled_bounds nonzero positive
  have divides := dividePow_snd_pos numerator positive (roundingExponent numerator denominator)
  rw [← dividePow_div] at fits full
  exact ⟨nearestEven_le divides fits.le, full.imp_left (le_nearestEven divides)⟩

end Rounding

/-- What fits in 53 bits, up to a carry, is packed in canonical form. -/
theorem isCanonical_pack {negative : Bool} {significand : ℕ} {exponent : ℤ}
    (fits : significand ≤ 2 * leastFull) (least : minExponent ≤ exponent)
    (full : leastFull ≤ significand ∨ exponent = minExponent) :
    (pack negative significand exponent).IsCanonical := by
  unfold pack
  by_cases carried : significand = 2 * leastFull
  · simp only [carried, if_true]
    split
    · trivial
    · exact ⟨by decide, by omega, by omega, .inl le_rfl⟩
  · simp only [carried, if_false]
    split
    · trivial
    · exact ⟨by omega, least, by omega, full⟩

/-- Packing fails to give a finite value only beyond the greatest exponent. -/
theorem isFinite_pack {negative : Bool} {significand : ℕ} {exponent : ℤ} :
    (pack negative significand exponent).isFinite = true ↔
      exponent < maxExponent ∨ (exponent = maxExponent ∧ significand ≠ 2 * leastFull) := by
  unfold pack
  by_cases carried : significand = 2 * leastFull
  · simp only [carried, if_true]
    split <;> simp [isFinite] <;> omega
  · simp only [carried, if_false]
    split <;> simp [isFinite] <;> omega

/-- A rounded ratio is a value of the format. -/
theorem isCanonical_ofRatio (negative : Bool) (numerator : ℕ) {denominator : ℕ}
    (positive : 0 < denominator) : (ofRatio negative numerator denominator).IsCanonical := by
  by_cases nonzero : numerator = 0
  · rw [ofRatio, if_pos nonzero]
    exact ⟨by decide, le_rfl, by decide, .inr rfl⟩
  · obtain ⟨fits, full⟩ := roundedSignificand_bounds nonzero positive
    rw [ofRatio_eq_pack nonzero]
    exact isCanonical_pack fits (le_max_right _ _) full

/-- A value is a finite value or an infinity of a sign. -/
def HasSign (negative : Bool) (value : Binary64) : Prop :=
  (∃ significand exponent, value = .finite negative significand exponent) ∨
    value = .infinite negative

/-- A value is finite and has no sign. -/
def IsUnsigned (value : Binary64) : Prop :=
  ∃ significand exponent, value = .finite false significand exponent

/-- A rounded ratio has its sign. -/
theorem ofRatio_hasSign (negative : Bool) (numerator denominator : ℕ) :
    (ofRatio negative numerator denominator).HasSign negative := by
  have packed (significand : ℕ) (exponent : ℤ) :
      (pack negative significand exponent).HasSign negative := by
    unfold pack
    dsimp only
    generalize (if significand = 2 * leastFull then exponent + 1 else exponent) = shifted
    split
    · exact .inr rfl
    · exact .inl ⟨_, _, rfl⟩
  unfold ofRatio
  split
  · exact .inl ⟨_, _, rfl⟩
  · exact packed _ _

/-- A ratio is rounded to a finite value exactly if it is below the bound of overflow. -/
theorem isFinite_ofRatio_iff {negative : Bool} {numerator denominator : ℕ}
    (positive : 0 < denominator) :
    (ofRatio negative numerator denominator).isFinite = true ↔
      (numerator / denominator : ℚ) < overflowBound := by
  by_cases nonzero : numerator = 0
  · rw [ofRatio, if_pos nonzero, nonzero]
    simpa [isFinite, zero] using overflowBound_pos
  · obtain ⟨fits, full⟩ := scaled_bounds nonzero positive
    obtain ⟨carries, -⟩ := roundedSignificand_bounds nonzero positive
    have divides := dividePow_snd_pos numerator positive (roundingExponent numerator denominator)
    have unit : (0 : ℚ) < 2 ^ roundingExponent numerator denominator := by positivity
    rw [ofRatio_eq_pack nonzero, isFinite_pack]
    rcases lt_trichotomy (roundingExponent numerator denominator) maxExponent with
      small | last | large
    · refine iff_of_true (.inl small) ?_
      calc (numerator / denominator : ℚ)
          < (2 * leastFull : ℕ) * 2 ^ roundingExponent numerator denominator :=
            (div_lt_iff₀ unit).1 fits
        _ ≤ (2 * leastFull : ℕ) * 2 ^ (maxExponent - 1) := by
            gcongr
            · exact one_le_two
            · exact Int.le_sub_one_of_lt small
        _ = leastFull * 2 ^ maxExponent := by
            rw [zpow_sub_one₀ two_ne_zero]
            push_cast
            ring
        _ ≤ overflowBound := by
            unfold overflowBound
            gcongr
            norm_num [leastFull]
    · -- With the greatest exponent a value is finite if it is not rounded up to a carry.
      have finite : roundingExponent numerator denominator < maxExponent ∨
          (roundingExponent numerator denominator = maxExponent ∧
            roundedSignificand numerator denominator ≠ 2 * leastFull) ↔
          roundedSignificand numerator denominator < 2 * leastFull := by
        omega
      rw [finite, roundedSignificand, nearestEven_lt_iff divides rfl, dividePow_div, last,
        div_lt_iff₀ (by positivity)]
      rw [overflowBound, Nat.cast_mul, Nat.cast_ofNat]
    · refine iff_of_false (by omega) (not_lt.2 ?_)
      have above : (leastFull : ℚ) ≤
          numerator / denominator / 2 ^ roundingExponent numerator denominator := by
        refine full.resolve_right fun least => ?_
        rw [least] at large
        exact absurd large (by decide)
      calc overflowBound ≤ 2 * leastFull * 2 ^ maxExponent := by
            unfold overflowBound
            gcongr
            norm_num
        _ = leastFull * 2 ^ (maxExponent + 1) := by
            rw [zpow_add_one₀ two_ne_zero]
            ring
        _ ≤ leastFull * 2 ^ roundingExponent numerator denominator := by
            gcongr
            · exact one_le_two
            · exact large
        _ ≤ numerator / denominator := (le_div_iff₀ unit).1 above

/-! ## Products -/

/-- A value of the format is below the bound of overflow. -/
theorem magnitude_lt_overflowBound {value : Binary64} (canonical : value.IsCanonical) :
    value.magnitude < overflowBound := by
  cases value with
  | finite negative significand exponent =>
    obtain ⟨fits, _, greatest, _⟩ := canonical
    have fits : (significand : ℚ) ≤ (2 * leastFull - 1 : ℕ) := by
      exact_mod_cast Nat.le_sub_one_of_lt fits
    calc (significand : ℚ) * 2 ^ exponent ≤ (2 * leastFull - 1 : ℕ) * 2 ^ maxExponent := by
          gcongr
          exact one_le_two
      _ < overflowBound := by
          unfold overflowBound
          gcongr
          norm_num [leastFull]
  | infinite | nan => exact overflowBound_pos

theorem magnitude_nonneg (value : Binary64) : 0 ≤ value.magnitude := by
  cases value with
  | finite negative significand exponent => unfold magnitude; positivity
  | infinite | nan => exact le_rfl

/-- A scaled integer is a ratio. -/
theorem scaled_div (significand : ℕ) (exponent : ℤ) :
    ((significand <<< exponent.toNat : ℕ) / (1 <<< (-exponent).toNat : ℕ) : ℚ) =
      significand * 2 ^ exponent := by
  obtain ⟨k, rfl | rfl⟩ := exponent.eq_nat_or_neg
  · simp [Nat.shiftLeft_eq]
  · simp [Nat.shiftLeft_eq, div_eq_mul_inv]

theorem scaled_snd_pos (exponent : ℤ) : 0 < 1 <<< (-exponent).toNat := by
  rw [Nat.shiftLeft_eq]
  positivity

/-- A scaled integer is rounded as the ratio that it is. -/
theorem isFinite_ofScaled_iff {negative : Bool} {significand : ℕ} {exponent : ℤ} :
    (ofScaled negative significand exponent).isFinite = true ↔
      (significand * 2 ^ exponent : ℚ) < overflowBound := by
  rw [ofScaled, isFinite_ofRatio_iff (scaled_snd_pos exponent), scaled_div]

/-- A product is a value of the format. -/
theorem isCanonical_mul (first second : Binary64) : (first.mul second).IsCanonical := by
  unfold mul
  split
  · exact isCanonical_ofRatio _ _ (scaled_snd_pos _)
  · split <;> trivial
  · split <;> trivial
  all_goals trivial

/-- The product of two finite values is finite exactly if the product of what they stand for is below
the bound of overflow. -/
theorem isFinite_mul_iff {first second : Binary64} (finite : first.isFinite = true)
    (also : second.isFinite = true) :
    (first.mul second).isFinite = true ↔ first.magnitude * second.magnitude < overflowBound := by
  cases first with
  | infinite | nan => cases finite
  | finite s m e =>
    cases second with
    | infinite | nan => cases also
    | finite t n f =>
      have product : ((m * n : ℕ) * 2 ^ (e + f) : ℚ) = m * 2 ^ e * (n * 2 ^ f) := by
        rw [zpow_add₀ two_ne_zero]
        push_cast
        ring
      rw [mul, isFinite_ofScaled_iff, product]
      rfl

end Binary64

namespace Literal

/-! ## Decimals -/

/-- A natural number lies between the powers of ten that its digits say. -/
theorem digitCount_spec {n : ℕ} (nonzero : n ≠ 0) :
    (10 : ℚ) ^ (digitCount n - 1 : ℤ) ≤ n ∧ (n : ℚ) < 10 ^ (digitCount n : ℤ) := by
  have positive : 0 < digitCount n := Nat.length_toDigits_pos
  have fits {k : ℕ} (positive : 0 < k) : digitCount n ≤ k ↔ n < 10 ^ k :=
    Nat.length_toDigits_le_iff (by decide) positive
  constructor
  · have least : 10 ^ (digitCount n - 1) ≤ n := by
      by_cases single : digitCount n = 1
      · rw [single]
        exact Nat.one_le_iff_ne_zero.2 nonzero
      · rw [← not_lt, ← fits (by omega)]
        omega
    rw [← Nat.cast_one, ← Nat.cast_sub positive, zpow_natCast]
    exact_mod_cast least
  · exact_mod_cast (fits positive).1 le_rfl

/-- So a decimal is below the power of ten that its digits and its exponent say. -/
theorem decimal_lt {coefficient : ℕ} (nonzero : coefficient ≠ 0) (exponent : ℤ) :
    (coefficient * 10 ^ exponent : ℚ) < 10 ^ (digitCount coefficient + exponent : ℤ) := by
  have power : (0 : ℚ) < 10 ^ exponent := by positivity
  rw [zpow_add₀ (by norm_num)]
  exact mul_lt_mul_of_pos_right (digitCount_spec nonzero).2 power

/-- A decimal is a ratio. -/
theorem decimal_div (coefficient : ℕ) (exponent : ℤ) :
    ((coefficient * Nat.pow 10 exponent.toNat : ℕ) / (Nat.pow 10 (-exponent).toNat : ℕ) : ℚ) =
      coefficient * 10 ^ exponent := by
  obtain ⟨k, rfl | rfl⟩ := exponent.eq_nat_or_neg
  · simp
  · simp [div_eq_mul_inv]

/-- A decimal has a finite value exactly if it is below the bound of overflow. Those with many digits
before or after the point, which are not rounded digit by digit, are far from the bound. -/
theorem isFinite_decimalValue_iff {negative : Bool} {coefficient : ℕ} {exponent : ℤ} :
    (decimalValue negative coefficient exponent).isFinite = true ↔
      (coefficient * 10 ^ exponent : ℚ) < Binary64.overflowBound := by
  have power : (0 : ℚ) < 10 ^ exponent := by positivity
  unfold decimalValue
  dsimp only
  by_cases nonzero : coefficient = 0
  · rw [if_pos nonzero, nonzero]
    simpa [Binary64.isFinite, Binary64.zero] using Binary64.overflowBound_pos
  · obtain ⟨least, _⟩ := digitCount_spec nonzero
    rw [if_neg nonzero]
    split
    · next large =>
      refine iff_of_false Bool.false_ne_true (not_lt.2 ?_)
      calc Binary64.overflowBound ≤ 10 ^ (310 : ℤ) := Binary64.overflowBound_le
        _ ≤ 10 ^ (digitCount coefficient - 1 + exponent : ℤ) :=
            zpow_le_zpow_right₀ (by norm_num) (by omega)
        _ = 10 ^ (digitCount coefficient - 1 : ℤ) * 10 ^ exponent := zpow_add₀ (by norm_num) _ _
        _ ≤ coefficient * 10 ^ exponent := by gcongr
    · split
      · next small =>
        refine iff_of_true rfl ?_
        calc (coefficient * 10 ^ exponent : ℚ)
            < 10 ^ (digitCount coefficient + exponent : ℤ) := decimal_lt nonzero exponent
          _ ≤ 10 ^ (0 : ℤ) := zpow_le_zpow_right₀ (by norm_num) (by omega)
          _ = 1 := zpow_zero 10
          _ < Binary64.overflowBound := Binary64.one_lt_overflowBound
      · have positive : 0 < Nat.pow 10 (-exponent).toNat := Nat.pow_pos (by decide)
        rw [Binary64.isFinite_ofRatio_iff positive, decimal_div]

/-- The value of a literal is a value of the format. -/
theorem isCanonical_toBinary64 (literal : Literal) : literal.toBinary64.IsCanonical := by
  have zero (negative : Bool) : (Binary64.zero negative).IsCanonical :=
    ⟨by decide, le_rfl, by decide, .inr rfl⟩
  cases literal with
  | decimal negative coefficient exponent =>
    change (decimalValue negative coefficient exponent).IsCanonical
    unfold decimalValue
    dsimp only
    split
    · exact zero negative
    · split
      · trivial
      · split
        · exact zero negative
        · exact Binary64.isCanonical_ofRatio _ _ (Nat.pow_pos (by decide))
  | infinite | nan => trivial

/-- The value of a decimal is finite or infinite, with its sign. -/
theorem decimalValue_hasSign (negative : Bool) (coefficient : ℕ) (exponent : ℤ) :
    (decimalValue negative coefficient exponent).HasSign negative := by
  unfold decimalValue
  dsimp only
  split
  · exact .inl ⟨_, _, rfl⟩
  · split
    · exact .inr rfl
    · split
      · exact .inl ⟨_, _, rfl⟩
      · exact Binary64.ofRatio_hasSign _ _ _

/-- A literal stands for a number that is too great for the format. -/
def Overflows : Literal → Prop
  | .decimal _ coefficient exponent => Binary64.overflowBound ≤ coefficient * 10 ^ exponent
  | .infinite _ => True
  | .nan => False

/-- A literal that stands for a number has a finite value exactly if it does not overflow. -/
theorem isFinite_toBinary64_iff {literal : Literal} (number : literal ≠ .nan) :
    literal.toBinary64.isFinite = true ↔ ¬ literal.Overflows := by
  cases literal with
  | decimal negative coefficient exponent =>
    exact isFinite_decimalValue_iff.trans not_le.symm
  | infinite negative => exact iff_of_false Bool.false_ne_true (not_not_intro trivial)
  | nan => exact absurd rfl number

end Literal

end Converge
