import Converge.Proofs.Number.QuantityGrammar

/-!
# Well-formed amounts

A specification has amounts of two kinds, each checked by rules of its own. An amount of bytes is any
quantity. An amount of processor cores is a whole number of thousandths, or a literal; it has no other
unit and no blanks around it, and it may be infinite. The rules are stated here as grammars, and the
checks accept exactly their texts: `Quantity.checkMemory_eq_ok_iff` and `Quantity.checkCores_eq_ok_iff`.
-/

namespace Converge.Quantity

/-- The texts that are amounts of bytes: a literal with a finite value that is not below zero, the
suffix of a unit behind it, and blanks around both. -/
def SpellsBytes (text : String) : Prop :=
  ∃ division : Division (Text.trim text.toList), isAmount division.literal.toBinary64 = true

/-- The texts of integers that fit into 64 bits without a sign; a plus may stand in front. -/
inductive SpellsUnsigned64 : List Char → Prop where
  | of {sign digits} (signed : Literal.SpellsSign sign false) (numeral : Literal.IsNumeral digits)
      (fits : Literal.digitsValue digits < UInt64.size) : SpellsUnsigned64 (sign ++ digits)

/-- The texts that are amounts of processor cores. -/
inductive SpellsCores : List Char → Prop where
  | thousandths {number} (spells : SpellsUnsigned64 number) : SpellsCores (number ++ ['m'])
  | cores {text literal} (spells : Literal.Spells text literal)
      (least : (Binary64.zero false).le literal.toBinary64 = true) : SpellsCores text

theorem checkMemory_eq_ok_iff {text : String} : checkMemory text = .ok () ↔ SpellsBytes text := by
  rw [checkMemory_eq_ok_iff_exists]
  constructor
  · rintro ⟨amount, read⟩
    obtain ⟨division, valid, _⟩ := parse?_eq_some_iff.1 read
    exact ⟨division, valid⟩
  · rintro ⟨division, valid⟩
    exact ⟨_, parse?_eq_some_iff.2 ⟨division, valid, rfl⟩⟩

theorem isUnsigned64_iff {text : List Char} : isUnsigned64 text = true ↔ SpellsUnsigned64 text := by
  have digits (digits : List Char) : (!digits.isEmpty && digits.all Char.isDigit &&
      decide (Literal.digitsValue digits < UInt64.size)) = true ↔
      Literal.IsNumeral digits ∧ Literal.digitsValue digits < UInt64.size := by
    simp [Literal.IsNumeral]
  constructor
  · intro valid
    unfold isUnsigned64 at valid
    dsimp only at valid
    split at valid
    · obtain ⟨numeral, fits⟩ := (digits _).1 valid
      exact .of .plus numeral fits
    · obtain ⟨numeral, fits⟩ := (digits _).1 valid
      exact .of .absent numeral fits
  · rintro ⟨signed, numeral, fits⟩
    cases signed with
    | plus => exact (digits _).2 ⟨numeral, fits⟩
    | absent =>
      -- A digit is no plus, so all of the text is taken for digits.
      unfold isUnsigned64
      dsimp only [List.nil_append]
      split
      · exact absurd (numeral.2 '+' List.mem_cons_self) (by decide)
      · exact (digits _).2 ⟨numeral, fits⟩

/-- No literal ends like thousandths. -/
theorem dropEnding?_thousandths {text : List Char} {literal : Literal}
    (spells : Literal.Spells text literal) : Text.dropEnding? ['m'] text = none := by
  obtain ⟨_, final, ends, closes⟩ := spells.written
  have suffix : ['m'].getLast? = some 'm' := rfl
  refine Text.dropEnding?_eq_none ends suffix ?_
  rintro rfl
  exact absurd closes (by decide)

theorem isCores_iff {text : String} : isCores text = true ↔ SpellsCores text.toList := by
  unfold isCores
  constructor
  · intro valid
    split at valid
    · next number cut =>
      rw [Text.dropEnding?_eq_some_iff.1 cut]
      exact .thousandths (isUnsigned64_iff.1 valid)
    · split at valid
      · next value found =>
        obtain ⟨literal, read, rfl⟩ := Option.map_eq_some_iff.1 found
        exact .cores (Literal.spells_of_parse? read) valid
      · cases valid
  · intro spells
    generalize text.toList = chars at spells
    cases spells with
    | thousandths spells =>
      rw [Text.dropEnding?_eq_some_iff.2 rfl]
      exact isUnsigned64_iff.2 spells
    | cores spells least =>
      rw [dropEnding?_thousandths spells]
      dsimp only
      rw [number?, Literal.parse?_of_spells spells]
      exact least

theorem checkCores_eq_ok_iff {text : String} :
    checkCores text = .ok () ↔ SpellsCores text.toList :=
  checkCores_eq_ok_iff_isCores.trans isCores_iff

end Converge.Quantity
