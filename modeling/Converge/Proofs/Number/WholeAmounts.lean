import Converge.Proofs.Number.QuantityText

/-!
# Whole amounts are compared exactly

Amounts are compared up to a rounding error in proportion to the greater one of them. Below `2 ^ 52`
whole numbers, their products with the factors of units and their distances are representable, so no
step of reading and comparing them is rounded, and the error that is allowed is less than one. Two
such amounts are equal exactly if they are the same number of bytes, whatever their units are:
`Quantity.equal_text_iff`.
-/

namespace Converge

namespace Quantity

open Binary64 (Representable leastFull)

/-! ## The error that is allowed -/

/-- The error is a fraction of a small whole number, and is not rounded. -/
theorem holds_epsilon_mul {scale : Binary64} {n : ℕ} (holds : scale.Holds n)
    (small : n < 2 * leastFull) : (epsilon.mul scale).Holds (n * 2 ^ (-52 : ℤ)) := by
  have least : Binary64.minExponent ≤ -52 := by decide
  have below_one : (2 ^ (-52 : ℤ) : ℚ) ≤ 1 := zpow_le_one_of_nonpos₀ one_le_two (by decide)
  have one : epsilon.Holds (2 ^ (-52 : ℤ)) := by
    have unit : ((1 : ℕ) * 2 ^ (-52 : ℤ) : ℚ) = 2 ^ (-52 : ℤ) := by rw [Nat.cast_one, one_mul]
    rw [← unit]
    refine Binary64.holds_of_roundsTo ⟨1, -52, by decide, least, rfl⟩ ?_
    refine Binary64.holds_ofScaled ?_
    rw [unit]
    exact below_one.trans_lt Binary64.one_lt_overflowBound
  refine Binary64.holds_of_roundsTo ⟨n, -52, small, least, rfl⟩ ?_
  rw [mul_comm]
  refine one.mul holds ?_
  calc (2 ^ (-52 : ℤ) * n : ℚ) ≤ 1 * n := by gcongr
    _ = n := one_mul _
    _ < Binary64.overflowBound := Binary64.natCast_lt_overflowBound small

/-- The distance of small whole numbers is not rounded either. -/
theorem holds_abs_sub {x y : Binary64} {a b : ℕ} (first : x.Holds a) (second : y.Holds b)
    (small : a < leastFull) (also_small : b < leastFull) :
    (x.sub y).abs.Holds ((a - b : ℤ).natAbs : ℕ) := by
  have distance : |(a : ℚ) - b| = ((a - b : ℤ).natAbs : ℕ) := by
    rw [Nat.cast_natAbs, Int.cast_abs]
    push_cast
    rfl
  have fits : (a - b : ℤ).natAbs < 2 * leastFull := by omega
  refine Binary64.holds_of_roundsTo (Binary64.representable_natCast fits) ?_
  rw [← distance]
  refine first.abs_sub second ?_
  rw [distance]
  exact Binary64.natCast_lt_overflowBound fits

/-- Whole numbers below `2 ^ 52` are equal as amounts exactly if they are the same. -/
theorem amountsEqual_iff {x y : Binary64} {a b : ℕ} (first : x.Holds a) (second : y.Holds b)
    (small : a < leastFull) (also_small : b < leastFull) : amountsEqual x y = true ↔ a = b := by
  have least : 1 < leastFull := by decide
  have greatest : max (max a b) 1 < leastFull := by omega
  have scale : ((x.abs.max y.abs).max (.ofNat 1)).Holds (max (max a b) 1 : ℕ) := by
    rw [first.abs_eq, second.abs_eq]
    push_cast
    exact (first.max second).max (by exact_mod_cast Binary64.holds_ofNat_of_lt (n := 1) (by decide))
  have allowed := holds_epsilon_mul scale (by omega)
  rw [amountsEqual, (holds_abs_sub first second small also_small).le_iff allowed]
  generalize max (max a b) 1 = bound at *
  constructor
  · intro close
    -- The error is less than one, and the distance is whole.
    have error : (bound * 2 ^ (-52 : ℤ) : ℚ) < 1 := by
      calc (bound * 2 ^ (-52 : ℤ) : ℚ) < leastFull * 2 ^ (-52 : ℤ) := by gcongr
        _ = 1 := by norm_num [leastFull]
    have none : (a - b : ℤ).natAbs < 1 := by exact_mod_cast close.trans_lt error
    omega
  · rintro rfl
    have none : (a - a : ℤ).natAbs = 0 := by omega
    rw [none, Nat.cast_zero]
    positivity

/-! ## Whole amounts -/

/-- The units of whole numbers of bytes. -/
def wholeUnits : List (List Char × ℕ) :=
  [ ([], 1), (['K', 'i'], 1 <<< 10), (['M', 'i'], 1 <<< 20), (['G', 'i'], 1 <<< 30),
    (['T', 'i'], 1 <<< 40), (['P', 'i'], 1 <<< 50), (['E', 'i'], 1 <<< 60), (['k'], Nat.pow 10 3),
    (['M'], Nat.pow 10 6), (['G'], Nat.pow 10 9), (['T'], Nat.pow 10 12), (['P'], Nat.pow 10 15),
    (['E'], Nat.pow 10 18) ]

/-- Digits in front of such a unit. -/
structure WholeAmount where
  digits : List Char
  suffix : List Char
  factor : ℕ
  numeral : Literal.IsNumeral digits
  listed : (suffix, factor) ∈ wholeUnits

namespace WholeAmount

/-- The text of a whole amount. -/
def text (amount : WholeAmount) : String := String.ofList (amount.digits ++ amount.suffix)

/-- The number of bytes that it stands for. -/
def bytes (amount : WholeAmount) : ℕ := Literal.digitsValue amount.digits * amount.factor

/-- A natural number is written with its digits. -/
def ofNat (n : ℕ) {suffix : List Char} {factor : ℕ} (listed : (suffix, factor) ∈ wholeUnits) :
    WholeAmount where
  digits := Nat.toDigits 10 n
  suffix := suffix
  factor := factor
  numeral := Literal.isNumeral_toDigits n
  listed := listed

theorem bytes_ofNat (n : ℕ) {suffix : List Char} {factor : ℕ}
    (listed : (suffix, factor) ∈ wholeUnits) : (ofNat n listed).bytes = n * factor := by
  rw [bytes, ofNat, Literal.digitsValue_toDigits]

variable (amount : WholeAmount)

theorem factor_pos : 0 < amount.factor := by
  have positive : ∀ unit ∈ wholeUnits, 0 < unit.2 := by decide
  exact positive _ amount.listed

/-- The factors are representable, though some of them are great. -/
theorem holds_factor : (Binary64.ofNat amount.factor).Holds amount.factor := by
  have factors : ∀ unit ∈ wholeUnits, (Binary64.ofNat unit.2).isFinite = true ∧
      ∃ k < 61, unit.2 = unit.2 / 1 <<< k * 1 <<< k ∧ unit.2 / 1 <<< k < 2 * leastFull := by
    decide +kernel
  obtain ⟨finite, k, _, whole, fits⟩ := factors _ amount.listed
  have least : Binary64.minExponent ≤ k := by
    have : Binary64.minExponent ≤ 0 := by decide
    omega
  refine Binary64.holds_ofNat ⟨_, k, fits, least, ?_⟩ finite
  have exact : (amount.factor : ℚ) = (amount.factor / 1 <<< k * 1 <<< k : ℕ) :=
    congrArg Nat.cast whole
  rw [exact, Nat.cast_mul, Nat.one_shiftLeft, zpow_natCast]
  push_cast
  rfl

/-- A whole amount is read as its number of bytes. -/
theorem parse?_text (small : amount.bytes < leastFull) :
    ∃ value, parse? amount.text = some value ∧ value.Holds amount.bytes := by
  have units : ∀ unit ∈ wholeUnits, (unit.1, Binary64.ofNat unit.2) ∈ units := by decide +kernel
  have parts : parts? amount.text =
      some (.decimal false (Literal.digitsValue amount.digits) 0, .ofNat amount.factor) :=
    parts?_append (Literal.parse?_numeral .absent amount.numeral) (units _ amount.listed)
      String.toList_ofList
  have fewer : Literal.digitsValue amount.digits ≤ amount.bytes :=
    Nat.le_mul_of_pos_right _ amount.factor_pos
  have number := Literal.holds_decimalValue_natCast (n := Literal.digitsValue amount.digits) (by omega)
  have product := number.mul_natCast amount.holds_factor (small.trans (by decide))
  refine ⟨_, ?_, product⟩
  rw [parse?_eq_bind, parts, Option.bind_some]
  exact if_pos (isAmount_of_holds number)

end WholeAmount

/-- Two whole amounts below `2 ^ 52` bytes are equal exactly if they are as many bytes. -/
theorem equal_text_iff (first second : WholeAmount) (small : first.bytes < 2 ^ 52)
    (also_small : second.bytes < 2 ^ 52) :
    equal first.text second.text = true ↔ first.bytes = second.bytes := by
  have full : 2 ^ 52 = leastFull := by norm_num [leastFull]
  rw [full] at small also_small
  obtain ⟨x, read, holds⟩ := first.parse?_text small
  obtain ⟨y, also_read, also_holds⟩ := second.parse?_text also_small
  unfold equal
  rw [read, also_read]
  exact amountsEqual_iff holds also_holds small also_small

/-- The units do not matter, and at the edge a single byte does. -/
theorem equal_text_gibibyte :
    equal "1024Mi" "1Gi" = true ∧ equal "4503599627370495" "4503599627370494" = false := by
  have mebi : (['M', 'i'], 1 <<< 20) ∈ wholeUnits := by decide
  have gibi : (['G', 'i'], 1 <<< 30) ∈ wholeUnits := by decide
  have plain : ([], 1) ∈ wholeUnits := by decide
  constructor
  · refine (equal_text_iff (.ofNat 1024 mebi) (.ofNat 1 gibi) ?_ ?_).2 ?_ <;>
      norm_num [WholeAmount.bytes_ofNat, Nat.shiftLeft_eq]
  · have same : equal "4503599627370495" "4503599627370494" = true ↔ _ :=
      equal_text_iff (.ofNat 4503599627370495 plain) (.ofNat 4503599627370494 plain)
        (by norm_num [WholeAmount.bytes_ofNat]) (by norm_num [WholeAmount.bytes_ofNat])
    refine Bool.eq_false_iff.2 (mt same.1 ?_)
    norm_num [WholeAmount.bytes_ofNat]

end Quantity

end Converge
