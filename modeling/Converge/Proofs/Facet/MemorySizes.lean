import Converge.JavaFlags
import Converge.Proofs.Number.QuantityText

/-!
# Memory sizes

The sizes are computed from the amount that is read of the memory limit. If it holds a number, they are
whole numbers of megabytes, and no rounding makes the heap, four fifths of direct memory, greater than
all of it. An infinite amount is the one that has no such sizes (`MemorySizes.ofLimit_cases`). It comes
of a limit whose number is finite and too great for its suffix, and the machine is then given a size of
`infm`.
-/

namespace Converge

namespace MemorySizes

/-- The sizes that are whole numbers of megabytes. -/
def ofMegabytes (heap direct : ℕ) : MemorySizes := ⟨toString heap ++ "m", toString direct ++ "m"⟩

/-- Sizes that the machine can start with. -/
inductive Usable : MemorySizes → Prop where
  | of {heap direct : ℕ} (least : 2 ≤ heap) (within : heap ≤ direct) :
      Usable (ofMegabytes heap direct)

theorem usable_standard : standard.Usable := by
  have standard_eq : standard = ofMegabytes 1718 2148 := rfl
  rw [standard_eq]
  exact .of (by decide) (by decide)

/-- Four fifths are rounded, but not to more than one. -/
theorem holds_fourFifths : ∃ ratio, (Binary64.ofRatio false 8 10).Holds ratio ∧ ratio ≤ 1 := by
  have below : ((8 : ℕ) / (10 : ℕ) : ℚ) ≤ 1 := by norm_num
  obtain ⟨ratio, fifths, rounds⟩ :=
    Binary64.holds_ofRatio (by decide) (below.trans_lt Binary64.one_lt_overflowBound)
  exact ⟨ratio, fifths, rounds.le_of_le 1 Binary64.representable_one below⟩

/-- A limit that holds a number gives a heap that direct memory has room for, or one that is too small
to be used. -/
theorem ofLimit?_of_holds {bytes : Binary64} {q : ℚ} (holds : bytes.Holds q) :
    ∃ heap direct, heap ≤ direct ∧
      ofLimit? bytes = if heap < 2 then none else some (ofMegabytes heap direct) := by
  have million : (Binary64.ofNat 1000000).Holds (1000000 : ℕ) :=
    Binary64.holds_ofNat_of_lt (by decide)
  have shrinks : q / (1000000 : ℕ) ≤ q := div_le_self holds.nonneg (by norm_num)
  obtain ⟨quotient, divided, _⟩ :=
    holds.div million (by norm_num) (shrinks.trans_lt holds.lt_overflowBound)
  have direct := divided.ceil
  obtain ⟨ratio, fifths, ratio_le⟩ := holds_fourFifths
  have less : (⌈quotient⌉₊ : ℚ) * ratio ≤ ⌈quotient⌉₊ :=
    mul_le_of_le_one_right (Nat.cast_nonneg _) ratio_le
  obtain ⟨product, multiplied, rounds⟩ := direct.mul fifths (less.trans_lt direct.lt_overflowBound)
  have product_le : product ≤ ⌈quotient⌉₊ := rounds.le_of_le _ direct.representable less
  have heap := multiplied.round
  refine ⟨⌊product + 1 / 2⌋₊, ⌈quotient⌉₊, ?_, ?_⟩
  · have nonneg : 0 ≤ product + 1 / 2 := by linarith [multiplied.nonneg]
    rw [← Nat.lt_succ_iff, Nat.floor_lt nonneg]
    push_cast
    linarith
  · have two : (Binary64.ofNat 2).Holds (2 : ℕ) := Binary64.holds_ofNat_of_lt (by decide)
    have usable := heap.lt_iff two
    rw [Nat.cast_lt] at usable
    unfold ofLimit?
    dsimp only
    rw [megabytes, megabytes, heap.wholeText_eq, direct.wholeText_eq]
    simp only [usable, ofMegabytes]

/-- The sizes for an amount are usable, as those without a limit are. -/
theorem usable_of_isAmount {bytes : Binary64} (valid : Quantity.isAmount bytes = true)
    (canonical : bytes.IsCanonical) : ((ofLimit? bytes).getD standard).Usable := by
  rcases Quantity.holds_of_isAmount valid canonical with holds | rfl
  · obtain ⟨heap, direct, within, sizes⟩ := ofLimit?_of_holds holds
    rw [sizes]
    split
    · exact usable_standard
    · next usable => exact .of (by omega) within
  · -- The zero with a sign keeps it to the end, and is less than two.
    have none : ofLimit? (.zero true) = none := by decide +kernel
    rw [none]
    exact usable_standard

/-- An optional limit that is not read as infinite gives usable sizes. -/
theorem ofLimit_cases (limit : Option String) :
    ((∀ amount, limit.bind Quantity.parse? = some amount → amount.isFinite = true) ∧
        (ofLimit limit).Usable) ∨
      (limit.bind Quantity.parse? = some (.infinite false) ∧ ofLimit limit = ⟨"infm", "infm"⟩) := by
  unfold ofLimit
  cases read : limit.bind Quantity.parse? with
  | none => exact .inl ⟨by simp, usable_standard⟩
  | some amount =>
    obtain ⟨text, _, read⟩ := Option.bind_eq_some_iff.1 read
    rw [Option.bind_some]
    rcases Quantity.amount_of_parse? read with ⟨valid, _⟩ | ⟨rfl, _⟩
    · refine .inl ⟨?_, usable_of_isAmount valid (Quantity.isCanonical_of_parse? read)⟩
      rintro _ ⟨⟩
      exact (Bool.and_eq_true_iff.1 valid).1
    · exact .inr ⟨rfl, by decide +kernel⟩

end MemorySizes

namespace JavaFlags

/-- A size is a whole number of megabytes. -/
def IsMegabytes (size : List Char) (count : ℕ) : Prop :=
  ∃ digits, Literal.IsNumeral digits ∧ Literal.digitsValue digits = count ∧ size = digits ++ ['m']

theorem isMegabytes_toString (n : ℕ) : IsMegabytes (toString n ++ "m").toList n := by
  refine ⟨Nat.toDigits 10 n, Literal.isNumeral_toDigits n, Literal.digitsValue_toDigits n, ?_⟩
  rw [String.toList_append]
  exact congrArg (· ++ ['m']) Nat.toList_repr

/-- Sizes have no blanks. -/
theorem IsMegabytes.solid {size : List Char} {count : ℕ} (megabytes : IsMegabytes size count) :
    ' ' ∉ size := by
  obtain ⟨digits, numeral, _, rfl⟩ := megabytes
  intro inside
  rcases List.mem_append.1 inside with digit | suffix
  · exact absurd (numeral.2 _ digit) (by decide)
  · exact absurd suffix (by decide)

theorem solid_ofLimit (limit : Option String) :
    ' ' ∉ (MemorySizes.ofLimit limit).heap.toList ∧
      ' ' ∉ (MemorySizes.ofLimit limit).direct.toList := by
  rcases MemorySizes.ofLimit_cases limit with ⟨_, usable⟩ | ⟨_, sizes⟩
  · generalize MemorySizes.ofLimit limit = sizes at usable ⊢
    cases usable with
    | @of heap direct =>
      exact ⟨(isMegabytes_toString heap).solid, (isMegabytes_toString direct).solid⟩
  · rw [sizes]
    decide

end JavaFlags

end Converge
