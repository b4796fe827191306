import Converge.Proofs.Number.Range
import Mathlib.Algebra.Order.Floor.Semifield
import Mathlib.Data.Nat.Cast.Field
import Mathlib.Data.Rat.Floor

/-!
# Rounding keeps the order

`Binary64.Representable` are the numbers without a sign that a significand of 53 bits writes. A number
is rounded (`Binary64.RoundsTo`) without stepping over any of them, so what is representable is rounded
to itself, and a representable bound of a number is a bound of what it is rounded to.

`Binary64.Holds` is a value that stands for a number. There is one statement for each operation on such
values: products, quotients, distances and decimals are rounded, and what is compared, taken up to the
next whole number or to the nearest one, or written out, is exact.
-/

namespace Converge

namespace Binary64

/-- A number without a sign that a significand of 53 bits writes, however great its exponent. -/
def Representable (q : ℚ) : Prop :=
  ∃ (significand : ℕ) (exponent : ℤ),
    significand < 2 * leastFull ∧ minExponent ≤ exponent ∧ q = significand * 2 ^ exponent

/-- Small whole numbers are representable. -/
theorem representable_natCast {n : ℕ} (small : n < 2 * leastFull) : Representable n :=
  ⟨n, 0, small, by decide, by simp⟩

theorem representable_one : Representable 1 := by
  exact_mod_cast representable_natCast (n := 1) (by decide)

/-- Every value of the format stands for a representable number. -/
theorem representable_magnitude {value : Binary64} (canonical : value.IsCanonical) :
    Representable value.magnitude := by
  cases value with
  | finite negative significand exponent =>
    exact ⟨significand, exponent, canonical.1, canonical.2.1, rfl⟩
  | infinite | nan => exact ⟨0, 0, by decide, by decide, by simp [magnitude]⟩

/-- A number is rounded to another one. No representable number lies between the two, so that a bound
on the one is a bound on the other. -/
structure RoundsTo (exact rounded : ℚ) : Prop where
  le_of_le : ∀ bound, Representable bound → exact ≤ bound → rounded ≤ bound
  ge_of_ge : ∀ bound, Representable bound → bound ≤ exact → bound ≤ rounded

/-- A representable number is rounded to itself. -/
theorem RoundsTo.eq {exact rounded : ℚ} (rounds : RoundsTo exact rounded)
    (representable : Representable exact) : rounded = exact :=
  le_antisymm (rounds.le_of_le exact representable le_rfl)
    (rounds.ge_of_ge exact representable le_rfl)

/-- What is less than any representable number but zero is rounded to zero. -/
theorem roundsTo_zero {exact : ℚ} (nonneg : 0 ≤ exact) (small : exact < 2 ^ minExponent) :
    RoundsTo exact 0 where
  le_of_le _ _ above := nonneg.trans above
  ge_of_ge := by
    rintro _ ⟨significand, exponent, _, least, rfl⟩ below
    by_cases positive : 0 < significand
    · have reaches : (2 ^ minExponent : ℚ) ≤ significand * 2 ^ exponent := by
        calc (2 ^ minExponent : ℚ) ≤ 2 ^ exponent := zpow_le_zpow_right₀ one_le_two least
          _ ≤ significand * 2 ^ exponent :=
            le_mul_of_one_le_left (by positivity) (by exact_mod_cast positive)
      exact absurd (below.trans_lt small) (not_lt.2 reaches)
    · have none : significand = 0 := by omega
      simp [none]

/-- A number with the exponent of a unit, or with a greater one, is a multiple of the unit. -/
theorem exists_multiple (significand : ℕ) {exponent unit : ℤ} (coarse : unit ≤ exponent) :
    ∃ multiple : ℕ, (significand * 2 ^ exponent : ℚ) = multiple * 2 ^ unit := by
  obtain ⟨k, shifted⟩ := Int.eq_ofNat_of_zero_le (sub_nonneg.2 coarse)
  refine ⟨significand * 2 ^ k, ?_⟩
  rw [eq_add_of_sub_eq' shifted, zpow_add₀ two_ne_zero]
  push_cast
  rw [zpow_natCast]
  ring

/-- One with a lesser exponent is below those that fill a significand of the unit. -/
theorem lt_of_fine {significand : ℕ} {exponent unit : ℤ} (small : significand < 2 * leastFull)
    (fine : exponent < unit) : (significand * 2 ^ exponent : ℚ) < leastFull * 2 ^ unit := by
  calc (significand * 2 ^ exponent : ℚ) < (2 * leastFull : ℕ) * 2 ^ exponent := by
        gcongr
    _ = leastFull * 2 ^ (exponent + 1) := by
        rw [zpow_add_one₀ two_ne_zero]
        push_cast
        ring
    _ ≤ leastFull * 2 ^ unit := by
        gcongr
        · exact one_le_two
        · exact fine

/-- The rounded significand and exponent keep to the same side of each representable number as the
ratio. -/
theorem roundsTo_rounded {numerator denominator : ℕ} (nonzero : numerator ≠ 0)
    (positive : 0 < denominator) :
    RoundsTo (numerator / denominator)
      (roundedSignificand numerator denominator * 2 ^ roundingExponent numerator denominator) := by
  obtain ⟨_, full⟩ := scaled_bounds nonzero positive
  obtain ⟨_, reaches⟩ := roundedSignificand_bounds nonzero positive
  have divides := dividePow_snd_pos numerator positive (roundingExponent numerator denominator)
  have unit : (0 : ℚ) < 2 ^ roundingExponent numerator denominator := by positivity
  constructor
  · rintro _ ⟨significand, exponent, small, least, rfl⟩ below
    rcases le_or_gt (roundingExponent numerator denominator) exponent with coarse | fine
    · obtain ⟨multiple, same⟩ := exists_multiple significand coarse
      rw [same] at below ⊢
      gcongr
      refine nearestEven_le divides ?_
      rwa [dividePow_div, div_le_iff₀ unit]
    · have above := full.resolve_right (by omega)
      rw [le_div_iff₀ unit] at above
      exact absurd (above.trans below) (not_le.2 (lt_of_fine small fine))
  · rintro _ ⟨significand, exponent, small, least, rfl⟩ above
    rcases le_or_gt (roundingExponent numerator denominator) exponent with coarse | fine
    · obtain ⟨multiple, same⟩ := exists_multiple significand coarse
      rw [same] at above ⊢
      gcongr
      refine le_nearestEven divides ?_
      rwa [dividePow_div, le_div_iff₀ unit]
    · have filled := reaches.resolve_right (by omega)
      refine (lt_of_fine small fine).le.trans ?_
      gcongr

/-! ## Values that hold a number -/

/-- A value of the format is finite, has no sign and stands for a number. -/
structure Holds (value : Binary64) (q : ℚ) : Prop where
  unsigned : value.IsUnsigned
  canonical : value.IsCanonical
  magnitude_eq : value.magnitude = q

namespace Holds

variable {value : Binary64} {q : ℚ}

theorem representable (holds : value.Holds q) : Representable q :=
  holds.magnitude_eq ▸ representable_magnitude holds.canonical

theorem lt_overflowBound (holds : value.Holds q) : q < overflowBound :=
  holds.magnitude_eq ▸ magnitude_lt_overflowBound holds.canonical

theorem nonneg (holds : value.Holds q) : 0 ≤ q :=
  holds.magnitude_eq ▸ magnitude_nonneg value

/-- The significand and the exponent of a value that holds a number. -/
theorem exists_finite (holds : value.Holds q) :
    ∃ significand exponent, value = .finite false significand exponent ∧
      (Binary64.finite false significand exponent).IsCanonical ∧
      (significand * 2 ^ exponent : ℚ) = q := by
  obtain ⟨significand, exponent, rfl⟩ := holds.unsigned
  exact ⟨significand, exponent, rfl, holds.canonical, holds.magnitude_eq⟩

end Holds

/-- What is packed without overflow keeps its magnitude, as a carry moves into the exponent. -/
theorem magnitude_pack {negative : Bool} {significand : ℕ} {exponent : ℤ}
    (finite : (pack negative significand exponent).isFinite = true) :
    (pack negative significand exponent).magnitude = significand * 2 ^ exponent := by
  unfold pack at finite ⊢
  by_cases carried : significand = 2 * leastFull
  · simp only [carried, if_true] at finite ⊢
    split at finite
    · cases finite
    · next fits =>
      rw [if_neg fits, magnitude, zpow_add_one₀ two_ne_zero]
      push_cast
      ring
  · simp only [carried, if_false] at finite ⊢
    split at finite
    · cases finite
    · next fits => rw [if_neg fits, magnitude]

/-- A finite value of no sign is unsigned. -/
theorem HasSign.isUnsigned {value : Binary64} (signed : value.HasSign false)
    (finite : value.isFinite = true) : value.IsUnsigned := by
  rcases signed with unsigned | rfl
  · exact unsigned
  · cases finite

/-- What a representable number is rounded to holds it. -/
theorem holds_of_roundsTo {value : Binary64} {q : ℚ} (representable : Representable q)
    (rounds : ∃ rounded, value.Holds rounded ∧ RoundsTo q rounded) : value.Holds q := by
  obtain ⟨rounded, holds, rounds⟩ := rounds
  rwa [rounds.eq representable] at holds

/-- The zero without a sign holds zero. -/
theorem holds_zero : (zero false).Holds 0 where
  unsigned := ⟨0, minExponent, rfl⟩
  canonical := ⟨by decide, le_rfl, by decide, .inr rfl⟩
  magnitude_eq := by simp [zero, magnitude]

/-- A ratio below the bound of overflow is rounded to a value that holds a number. -/
theorem holds_ofRatio {numerator denominator : ℕ} (positive : 0 < denominator)
    (bounded : (numerator / denominator : ℚ) < overflowBound) :
    ∃ rounded, (ofRatio false numerator denominator).Holds rounded ∧
      RoundsTo (numerator / denominator) rounded := by
  have finite : (ofRatio false numerator denominator).isFinite = true :=
    (isFinite_ofRatio_iff positive).2 bounded
  have unsigned := (ofRatio_hasSign false numerator denominator).isUnsigned finite
  refine ⟨_, ⟨unsigned, isCanonical_ofRatio _ _ positive, rfl⟩, ?_⟩
  by_cases nonzero : numerator = 0
  · rw [nonzero, ofRatio, if_pos rfl, zero, magnitude]
    simp only [Nat.cast_zero, zero_div, zero_mul]
    exact roundsTo_zero le_rfl (by positivity)
  · rw [ofRatio_eq_pack nonzero] at finite ⊢
    rw [magnitude_pack finite]
    exact roundsTo_rounded nonzero positive

/-- A scaled integer below the bound of overflow is rounded likewise. -/
theorem holds_ofScaled {significand : ℕ} {exponent : ℤ}
    (bounded : (significand * 2 ^ exponent : ℚ) < overflowBound) :
    ∃ rounded, (ofScaled false significand exponent).Holds rounded ∧
      RoundsTo (significand * 2 ^ exponent) rounded := by
  rw [← scaled_div] at bounded ⊢
  exact holds_ofRatio (scaled_snd_pos exponent) bounded

/-- Whole numbers that are representable are held exactly, unless they are too great. -/
theorem holds_ofNat {n : ℕ} (representable : Representable n)
    (finite : (ofNat n).isFinite = true) : (ofNat n).Holds n := by
  have rounds := holds_ofRatio one_pos ((isFinite_ofRatio_iff one_pos).1 finite)
  rw [Nat.cast_one, div_one] at rounds
  exact holds_of_roundsTo representable rounds

/-- Small ones are both. -/
theorem holds_ofNat_of_lt {n : ℕ} (small : n < 2 * leastFull) : (ofNat n).Holds n := by
  refine holds_ofNat (representable_natCast small) ((isFinite_ofRatio_iff one_pos).2 ?_)
  rw [Nat.cast_one, div_one]
  exact natCast_lt_overflowBound small

/-- Without its sign a rounded ratio is the ratio rounded without a sign. -/
theorem abs_ofRatio (negative : Bool) (numerator denominator : ℕ) :
    (ofRatio negative numerator denominator).abs = ofRatio false numerator denominator := by
  have packed (significand : ℕ) (exponent : ℤ) :
      (pack negative significand exponent).abs = pack false significand exponent := by
    unfold pack
    dsimp only
    split_ifs <;> rfl
  unfold ofRatio
  split
  · rfl
  · exact packed _ _

/-- A significand keeps its value when it is aligned to a lower exponent. -/
theorem aligned_mul {significand : ℕ} {exponent lower : ℤ} (below : lower ≤ exponent) :
    ((aligned false significand exponent lower : ℤ) : ℚ) * 2 ^ lower =
      significand * 2 ^ exponent := by
  obtain ⟨k, shift⟩ := Int.eq_ofNat_of_zero_le (sub_nonneg.2 below)
  have shifted : (exponent - lower).toNat = k := by omega
  rw [aligned, shifted, eq_add_of_sub_eq' shift, zpow_add₀ two_ne_zero, zpow_natCast]
  simp [Nat.shiftLeft_eq]
  ring

/-! ## Operations -/

/-- The least whole number that reaches a ratio is the quotient, or the next one where something
remains. -/
theorem natCeil_div {numerator denominator : ℕ} (positive : 0 < denominator) :
    ⌈(numerator / denominator : ℚ)⌉₊ =
      if numerator % denominator = 0 then numerator / denominator
      else numerator / denominator + 1 := by
  have divides : (0 : ℚ) < denominator := by exact_mod_cast positive
  have division : denominator * (numerator / denominator) + numerator % denominator = numerator :=
    Nat.div_add_mod _ _
  have less : numerator % denominator < denominator := Nat.mod_lt _ positive
  split
  · next even => rw [← Nat.cast_div (Nat.dvd_of_mod_eq_zero even) divides.ne', Nat.ceil_natCast]
  · next rest =>
    rw [Nat.ceil_eq_iff (Nat.add_one_ne_zero _), Nat.add_sub_cancel, lt_div_iff₀ divides,
      div_le_iff₀ divides]
    constructor
    · have above : numerator / denominator * denominator < numerator := by
        rw [mul_comm]
        omega
      exact_mod_cast above
    · have below : numerator ≤ (numerator / denominator + 1) * denominator := by
        rw [add_mul, mul_comm]
        omega
      exact_mod_cast below

namespace Holds

variable {x y : Binary64} {p q : ℚ}

/-- The product of held numbers is rounded. -/
theorem mul (first : x.Holds p) (second : y.Holds q) (bounded : p * q < overflowBound) :
    ∃ rounded, (x.mul y).Holds rounded ∧ RoundsTo (p * q) rounded := by
  obtain ⟨m, e, rfl, _, rfl⟩ := first.exists_finite
  obtain ⟨n, f, rfl, _, rfl⟩ := second.exists_finite
  have product : (m * 2 ^ e * (n * 2 ^ f) : ℚ) = (m * n : ℕ) * 2 ^ (e + f) := by
    rw [zpow_add₀ two_ne_zero]
    push_cast
    ring
  rw [product] at bounded ⊢
  exact holds_ofScaled bounded

/-- A small product of whole numbers is not. -/
theorem mul_natCast {a b : ℕ} (first : x.Holds a) (second : y.Holds b)
    (small : a * b < 2 * leastFull) : (x.mul y).Holds (a * b : ℕ) := by
  refine holds_of_roundsTo (representable_natCast small) ?_
  have bounded := natCast_lt_overflowBound small
  rw [Nat.cast_mul] at bounded ⊢
  exact first.mul second bounded

/-- The quotient of held numbers is rounded. -/
theorem div (first : x.Holds p) (second : y.Holds q) (nonzero : q ≠ 0)
    (bounded : p / q < overflowBound) :
    ∃ rounded, (x.div y).Holds rounded ∧ RoundsTo (p / q) rounded := by
  obtain ⟨m, e, rfl, _, rfl⟩ := first.exists_finite
  obtain ⟨n, f, rfl, _, rfl⟩ := second.exists_finite
  have divides : n ≠ 0 := by
    rintro rfl
    simp at nonzero
  have quotient : (m * 2 ^ e / (n * 2 ^ f) : ℚ) =
      (m <<< (e - f).toNat : ℕ) / (n <<< (f - e).toNat : ℕ) := by
    have apart : (2 : ℚ) ^ e / 2 ^ f = 2 ^ (e - f) := (zpow_sub₀ two_ne_zero e f).symm
    rw [mul_div_mul_comm, apart]
    obtain ⟨k, shift | shift⟩ := (e - f).eq_nat_or_neg
    · have back : (f - e).toNat = 0 := by omega
      rw [back, shift]
      simp [Nat.shiftLeft_eq]
      ring
    · have back : f - e = k := by omega
      rw [back, shift]
      simp [Nat.shiftLeft_eq]
      ring
  have positive : 0 < n <<< (f - e).toNat := by
    rw [Nat.shiftLeft_eq]
    positivity
  rw [quotient] at bounded ⊢
  rw [Binary64.div, if_neg divides]
  exact holds_ofRatio positive bounded

/-- Held numbers are compared as they are. -/
theorem le_iff (first : x.Holds p) (second : y.Holds q) : x.le y = true ↔ p ≤ q := by
  obtain ⟨m, e, rfl, _, rfl⟩ := first.exists_finite
  obtain ⟨n, f, rfl, _, rfl⟩ := second.exists_finite
  have unit : (0 : ℚ) < 2 ^ min e f := by positivity
  rw [← aligned_mul (min_le_left e f), ← aligned_mul (min_le_right e f),
    mul_le_mul_iff_of_pos_right unit, Int.cast_le]
  exact decide_eq_true_iff

theorem lt_iff (first : x.Holds p) (second : y.Holds q) : x.lt y = true ↔ p < q := by
  rw [lt, Bool.and_eq_true, first.le_iff second, Bool.not_eq_true', ← Bool.not_eq_true,
    second.le_iff first, not_le]
  exact and_iff_right_of_imp le_of_lt

/-- The greater of two held numbers is held. -/
theorem max (first : x.Holds p) (second : y.Holds q) : (x.max y).Holds (Max.max p q) := by
  have greater : x.max y = if x.le y then y else x := by
    obtain ⟨m, e, rfl, _, _⟩ := first.exists_finite
    obtain ⟨n, f, rfl, _, _⟩ := second.exists_finite
    rfl
  rw [greater]
  by_cases below : p ≤ q
  · rwa [if_pos ((first.le_iff second).2 below), max_eq_right below]
  · rwa [if_neg (mt (first.le_iff second).1 below), max_eq_left (le_of_not_ge below)]

/-- A value without a sign is its own magnitude. -/
theorem abs_eq (holds : x.Holds p) : x.abs = x := by
  obtain ⟨m, e, rfl, _, _⟩ := holds.exists_finite
  rfl

/-- The distance of held numbers is rounded. -/
theorem abs_sub (first : x.Holds p) (second : y.Holds q) (bounded : |p - q| < overflowBound) :
    ∃ rounded, (x.sub y).abs.Holds rounded ∧ RoundsTo |p - q| rounded := by
  obtain ⟨m, e, rfl, _, rfl⟩ := first.exists_finite
  obtain ⟨n, f, rfl, _, rfl⟩ := second.exists_finite
  let lower := min e f
  let difference := aligned false m e lower - aligned false n f lower
  have unit : (0 : ℚ) < 2 ^ lower := by positivity
  have distance : |(m * 2 ^ e : ℚ) - n * 2 ^ f| = difference.natAbs * 2 ^ lower := by
    rw [← aligned_mul (min_le_left e f), ← aligned_mul (min_le_right e f), ← sub_mul, abs_mul,
      abs_of_pos unit, Nat.cast_natAbs, Int.cast_abs, Int.cast_sub]
  rw [distance] at bounded ⊢
  have erased : ((Binary64.finite false m e).sub (.finite false n f)).abs =
      ofScaled false difference.natAbs lower := abs_ofRatio _ _ _
  rw [erased]
  exact holds_ofScaled bounded

/-- A value whose exponent is not negative holds a whole number. -/
theorem exists_natCast {m : ℕ} {e : ℤ} (holds : (Binary64.finite false m e).Holds p)
    (whole : 0 ≤ e) : ∃ n : ℕ, p = n := by
  obtain ⟨n, same⟩ := exists_multiple m whole
  refine ⟨n, ?_⟩
  rw [← holds.magnitude_eq, magnitude, same, zpow_zero, mul_one]

/-- With a negative exponent a significand is divided by two at least. -/
theorem eq_div {m : ℕ} {e : ℤ} (holds : (Binary64.finite false m e).Holds p)
    (fraction : e < 0) :
    p = m / (1 <<< (-e).toNat : ℕ) ∧ 2 ≤ 1 <<< (-e).toNat ∧ m < 2 * leastFull := by
  have none : e.toNat = 0 := by omega
  obtain ⟨k, shift⟩ : ∃ k, (-e).toNat = k + 1 := ⟨(-e).toNat - 1, by omega⟩
  refine ⟨?_, ?_, holds.canonical.1⟩
  · rw [← holds.magnitude_eq, magnitude, ← scaled_div, none, Nat.shiftLeft_zero]
  · rw [shift, Nat.shiftLeft_eq, one_mul, pow_succ]
    have := Nat.one_le_two_pow (n := k)
    omega

/-- The least whole number that is not less is held. -/
theorem ceil (holds : x.Holds p) : (x.ceil).Holds (⌈p⌉₊ : ℕ) := by
  obtain ⟨m, e, rfl, _, _⟩ := holds.exists_finite
  rcases le_or_gt 0 e with whole | fraction
  · obtain ⟨n, rfl⟩ := holds.exists_natCast whole
    rw [Binary64.ceil, if_pos whole, Nat.ceil_natCast]
    exact holds
  · obtain ⟨rfl, halved, fits⟩ := holds.eq_div fraction
    rw [Binary64.ceil, if_neg (not_le.2 fraction), if_neg Bool.false_ne_true,
      natCeil_div (by omega)]
    have quotient : m / 1 <<< (-e).toNat ≤ m / 2 := Nat.div_le_div_left halved two_pos
    have room : 2 < 2 * leastFull := by decide
    apply holds_ofNat_of_lt
    split <;> omega

/-- The nearest whole number is held, a half going up. -/
theorem round (holds : x.Holds p) : (x.round).Holds (⌊p + 1 / 2⌋₊ : ℕ) := by
  obtain ⟨m, e, rfl, _, _⟩ := holds.exists_finite
  rcases le_or_gt 0 e with whole | fraction
  · obtain ⟨n, rfl⟩ := holds.exists_natCast whole
    have kept : ⌊(n + 1 / 2 : ℚ)⌋₊ = n :=
      (Nat.floor_eq_iff (by positivity)).2 ⟨by linarith, by linarith⟩
    rw [Binary64.round, if_pos whole, kept]
    exact holds
  · obtain ⟨rfl, halved, fits⟩ := holds.eq_div fraction
    rw [Binary64.round, if_neg (not_le.2 fraction)]
    generalize 1 <<< (-e).toNat = unit at *
    have nearest : (m / unit + 1 / 2 : ℚ) = (2 * m + unit : ℕ) / (2 * unit : ℕ) := by
      have positive : (0 : ℚ) < unit := by exact_mod_cast two_pos.trans_le halved
      push_cast
      field_simp
    rw [nearest, Nat.floor_div_eq_div]
    apply holds_ofNat_of_lt
    rw [Nat.div_lt_iff_lt_mul (by omega)]
    calc 2 * m + unit < 2 * (2 * leastFull) + unit := by omega
      _ ≤ 2 * leastFull * (2 * unit) := by
        have room : 1 ≤ leastFull := by decide
        nlinarith

/-- A whole number is written with its digits. -/
theorem wholeText_eq {n : ℕ} (holds : x.Holds n) : x.wholeText = toString n := by
  obtain ⟨m, e, rfl, _, whole⟩ := holds.exists_finite
  have exact : wholeMagnitude m e = n := by
    have ratio := scaled_div m e
    rw [whole] at ratio
    exact le_antisymm (nearestEven_le (scaled_snd_pos e) ratio.le)
      (le_nearestEven (scaled_snd_pos e) ratio.ge)
  rw [wholeText, exact]
  exact String.empty_append

end Holds

end Binary64

namespace Literal

open Binary64 (Representable RoundsTo)

/-- The least representable number but zero is greater than what is not rounded digit by digit. -/
theorem pow_ten_le : (10 : ℚ) ^ (-330 : ℤ) ≤ 2 ^ Binary64.minExponent := by
  calc (10 : ℚ) ^ (-330 : ℤ) = ((10 : ℚ) ^ (-30 : ℤ)) ^ (11 : ℤ) := zpow_mul 10 (-30) 11
    _ ≤ (2 ^ (-98 : ℤ)) ^ (11 : ℤ) := by
        refine zpow_le_zpow_left₀ (by decide) (by positivity) ?_
        norm_num
    _ = 2 ^ (-1078 : ℤ) := (zpow_mul 2 (-98) 11).symm
    _ ≤ 2 ^ Binary64.minExponent := zpow_le_zpow_right₀ one_le_two (by decide)

/-- A decimal that is not negative is rounded, unless it overflows. One with many zeros behind its
point, which is not rounded digit by digit, is nearer to zero than any other representable number. -/
theorem holds_decimalValue {coefficient : ℕ} {exponent : ℤ}
    (bounded : (coefficient * 10 ^ exponent : ℚ) < Binary64.overflowBound) :
    ∃ rounded, (decimalValue false coefficient exponent).Holds rounded ∧
      RoundsTo (coefficient * 10 ^ exponent) rounded := by
  have nonneg : (0 : ℚ) ≤ coefficient * 10 ^ exponent := by positivity
  have finite : (decimalValue false coefficient exponent).isFinite = true :=
    isFinite_decimalValue_iff.2 bounded
  unfold decimalValue at finite ⊢
  dsimp only at finite ⊢
  by_cases nonzero : coefficient = 0
  · rw [if_pos nonzero, nonzero, Nat.cast_zero, zero_mul]
    exact ⟨0, Binary64.holds_zero, Binary64.roundsTo_zero le_rfl (by positivity)⟩
  · rw [if_neg nonzero] at finite ⊢
    split at finite
    · cases finite
    · next fits =>
      rw [if_neg fits]
      split
      · next small =>
        refine ⟨0, Binary64.holds_zero, Binary64.roundsTo_zero nonneg ?_⟩
        calc (coefficient * 10 ^ exponent : ℚ)
            < 10 ^ (digitCount coefficient + exponent : ℤ) := decimal_lt nonzero exponent
          _ ≤ 10 ^ (-330 : ℤ) := zpow_le_zpow_right₀ (by norm_num) (by omega)
          _ ≤ 2 ^ Binary64.minExponent := pow_ten_le
      · rw [← decimal_div] at bounded ⊢
        exact Binary64.holds_ofRatio (Nat.pow_pos (by decide)) bounded

/-- A small whole number is read exactly. -/
theorem holds_decimalValue_natCast {n : ℕ} (small : n < 2 * Binary64.leastFull) :
    (decimalValue false n 0).Holds n := by
  refine Binary64.holds_of_roundsTo (Binary64.representable_natCast small) ?_
  have bounded := Binary64.natCast_lt_overflowBound small
  have unscaled : (n * 10 ^ (0 : ℤ) : ℚ) = n := by rw [zpow_zero, mul_one]
  rw [← unscaled] at bounded ⊢
  exact holds_decimalValue bounded

end Literal

end Converge
