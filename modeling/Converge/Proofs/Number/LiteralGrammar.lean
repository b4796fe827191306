import Converge.Number.Literal
import Mathlib.Data.List.TakeWhile

/-!
# The grammar of number literals

`Literal.Spells` are the rules by which a text writes a literal, part by part: a sign, a mantissa with
or without a point and an exponent, or a word. They do not say how a text is taken apart. Reading
accepts exactly the texts of these rules (`Literal.parse?_eq_some_iff`), so a text spells one literal
at most.
-/

namespace Converge

namespace Literal

/-! ## The grammar -/

/-- Digits, at least one of them. -/
def IsNumeral (digits : List Char) : Prop := digits ≠ [] ∧ ∀ c ∈ digits, c.isDigit = true

/-- A sign in front, if there is one. -/
inductive SpellsSign : List Char → Bool → Prop where
  | absent : SpellsSign [] false
  | plus : SpellsSign ['+'] false
  | minus : SpellsSign ['-'] true

/-- Digits without a point or with one among or beside them: the coefficient that they write, and how
many of them stand behind the point. -/
inductive SpellsMantissa : List Char → ℕ → ℕ → Prop where
  | whole {digits} (numeral : IsNumeral digits) : SpellsMantissa digits (digitsValue digits) 0
  | pointed {whole fraction} (numeral : IsNumeral (whole ++ fraction)) :
      SpellsMantissa (whole ++ '.' :: fraction) (digitsValue (whole ++ fraction)) fraction.length

/-- The exponent of ten at the end, if there is one. -/
inductive SpellsExponent : List Char → ℤ → Prop where
  | absent : SpellsExponent [] 0
  | written {letter sign negative digits} (opens : letter = 'e' ∨ letter = 'E')
      (signed : SpellsSign sign negative) (numeral : IsNumeral digits) :
      SpellsExponent (letter :: (sign ++ digits))
        (if negative then -(digitsValue digits : ℤ) else digitsValue digits)

/-- The texts of a literal: a decimal, or a word for infinity or for no number in any case. -/
inductive Spells : List Char → Literal → Prop where
  | decimal {sign mantissa power negative coefficient places exponent}
      (signed : SpellsSign sign negative) (digits : SpellsMantissa mantissa coefficient places)
      (scaled : SpellsExponent power exponent) :
      Spells (sign ++ (mantissa ++ power)) (.decimal negative coefficient (exponent - places))
  | infinite {sign word negative} (signed : SpellsSign sign negative)
      (spelled : word.map Char.toLower ∈ ["inf".toList, "infinity".toList]) :
      Spells (sign ++ word) (.infinite negative)
  | nan {sign word negative} (signed : SpellsSign sign negative)
      (spelled : word.map Char.toLower = "nan".toList) : Spells (sign ++ word) .nan

/-! ## What is read is spelled so -/

/-- The sign that is split off is spelled so. -/
theorem spellsSign_of_splitSign (text : List Char) :
    ∃ sign, text = sign ++ (splitSign text).2 ∧ SpellsSign sign (splitSign text).1 := by
  unfold splitSign
  split
  · exact ⟨['-'], rfl, .minus⟩
  · exact ⟨['+'], rfl, .plus⟩
  · exact ⟨[], rfl, .absent⟩

theorem spellsExponent_of_parseExponent? {text : List Char} {exponent : ℤ}
    (read : parseExponent? text = some exponent) : SpellsExponent text exponent := by
  cases text with
  | nil =>
    cases read
    exact .absent
  | cons letter rest =>
    simp only [parseExponent?] at read
    split at read
    · next opens =>
      obtain ⟨sign, front, signed⟩ := spellsSign_of_splitSign rest
      split at read
      · cases read
      · next digits =>
        cases read
        simp only [Bool.or_eq_true, List.isEmpty_iff, Bool.not_eq_true', not_or,
          Bool.not_eq_false, List.all_eq_true] at digits
        conv in letter :: rest => rw [front]
        exact .written opens signed digits
    · cases read

/-- What is read as a decimal has a mantissa in front of its exponent. -/
theorem spells_of_parseDecimal? {negative : Bool} {text : List Char} {literal : Literal}
    (read : parseDecimal? negative text = some literal) :
    ∃ mantissa power coefficient places exponent, text = mantissa ++ power ∧
      SpellsMantissa mantissa coefficient places ∧ SpellsExponent power exponent ∧
      literal = .decimal negative coefficient (exponent - places) := by
  have digits (text : List Char) : ∀ c ∈ text.takeWhile Char.isDigit, c.isDigit = true :=
    fun _ inside => List.mem_takeWhile_imp inside
  have parted (text : List Char) : text = text.takeWhile Char.isDigit ++ text.dropWhile Char.isDigit :=
    List.takeWhile_append_dropWhile.symm
  unfold parseDecimal? at read
  dsimp only at read
  split at read
  · next more point =>
    split at read
    · cases read
    · next nonempty =>
      obtain ⟨exponent, scaled, rfl⟩ := Option.map_eq_some_iff.1 read
      refine ⟨text.takeWhile Char.isDigit ++ '.' :: more.takeWhile Char.isDigit, _, _, _, _, ?_,
        .pointed ⟨?_, ?_⟩, spellsExponent_of_parseExponent? scaled, rfl⟩
      · rw [List.append_assoc, List.cons_append, ← parted more, ← point, ← parted text]
      · simpa using nonempty
      · exact List.forall_mem_append.2 ⟨digits text, digits more⟩
  · split at read
    · cases read
    · next nonempty =>
      obtain ⟨exponent, scaled, rfl⟩ := Option.map_eq_some_iff.1 read
      rw [List.append_nil]
      exact ⟨_, _, _, 0, _, parted text, .whole ⟨by simpa using nonempty, digits text⟩,
        spellsExponent_of_parseExponent? scaled, rfl⟩

/-- What is read as a word is one. -/
theorem spelled_of_parseWord? {negative : Bool} {text : List Char} {literal : Literal}
    (read : parseWord? negative text = some literal) :
    (text.map Char.toLower ∈ ["inf".toList, "infinity".toList] ∧ literal = .infinite negative) ∨
      (text.map Char.toLower = "nan".toList ∧ literal = .nan) := by
  have letters {word : String} (same : String.ofList (text.map Char.toLower) = word) :
      text.map Char.toLower = word.toList := by
    rw [← same, String.toList_ofList]
  unfold parseWord? at read
  dsimp only at read
  split at read
  · next infinite =>
    cases read
    rcases infinite with short | long
    · exact .inl ⟨by simp [letters short], rfl⟩
    · exact .inl ⟨by simp [letters long], rfl⟩
  · split at read
    · next nan =>
      cases read
      exact .inr ⟨letters nan, rfl⟩
    · cases read

/-- A literal is read behind its sign. -/
theorem parse?_eq_or (text : List Char) :
    parse? text = (parseDecimal? (splitSign text).1 (splitSign text).2).or
      (parseWord? (splitSign text).1 (splitSign text).2) := rfl

theorem spells_of_parse? {text : List Char} {literal : Literal}
    (read : parse? text = some literal) : Spells text literal := by
  obtain ⟨sign, front, signed⟩ := spellsSign_of_splitSign text
  rw [parse?_eq_or] at read
  rw [front]
  generalize splitSign text = parts at read signed ⊢
  rcases Option.or_eq_some_iff.1 read with decimal | ⟨_, word⟩
  · obtain ⟨mantissa, power, _, _, _, unsigned, digits, scaled, rfl⟩ :=
      spells_of_parseDecimal? decimal
    rw [unsigned]
    exact .decimal signed digits scaled
  · rcases spelled_of_parseWord? word with ⟨infinite, rfl⟩ | ⟨nan, rfl⟩
    · exact .infinite signed infinite
    · exact .nan signed nan

/-! ## What is spelled so is read -/

/-- A text has no sign in front. -/
def IsBare (text : List Char) : Prop := splitSign text = (false, text)

theorem isBare_cons {c : Char} (solid : c ≠ '+' ∧ c ≠ '-') (rest : List Char) :
    IsBare (c :: rest) := by
  unfold IsBare splitSign
  split
  · next same => exact absurd (List.cons.inj same).1 solid.2
  · next same => exact absurd (List.cons.inj same).1 solid.1
  · rfl

/-- A digit is no sign. -/
theorem ne_sign_of_isDigit {c : Char} (digit : c.isDigit = true) : c ≠ '+' ∧ c ≠ '-' := by
  constructor <;> rintro rfl <;> exact absurd digit (by decide)

/-- Digits have no sign in front. -/
theorem isBare_numeral {digits : List Char} (numeral : IsNumeral digits) (rest : List Char) :
    IsBare (digits ++ rest) := by
  cases digits with
  | nil => exact absurd rfl numeral.1
  | cons c more => exact isBare_cons (ne_sign_of_isDigit (numeral.2 c List.mem_cons_self)) _

/-- Nor has a mantissa. -/
theorem isBare_mantissa {mantissa : List Char} {coefficient places : ℕ}
    (digits : SpellsMantissa mantissa coefficient places) (rest : List Char) :
    IsBare (mantissa ++ rest) := by
  cases digits with
  | whole numeral => exact isBare_numeral numeral rest
  | @pointed whole fraction numeral =>
    cases whole with
    | nil => exact isBare_cons (by decide) _
    | cons c more => exact isBare_cons (ne_sign_of_isDigit (numeral.2 c List.mem_cons_self)) _

/-- A sign in front of what has none is split off. -/
theorem splitSign_append {sign rest : List Char} {negative : Bool}
    (signed : SpellsSign sign negative) (bare : IsBare rest) :
    splitSign (sign ++ rest) = (negative, rest) := by
  cases signed with
  | absent => exact bare
  | plus | minus => rfl

theorem parseExponent?_of_spells {text : List Char} {exponent : ℤ}
    (spells : SpellsExponent text exponent) : parseExponent? text = some exponent := by
  cases spells with
  | absent => rfl
  | written opens signed numeral =>
    have bare := isBare_numeral numeral []
    rw [List.append_nil] at bare
    rw [parseExponent?, if_pos opens, splitSign_append signed bare]
    refine if_neg ?_
    simpa [IsNumeral] using numeral

/-- An exponent does not go on with the digits in front of it. -/
theorem span_exponent {power : List Char} {exponent : ℤ} (scaled : SpellsExponent power exponent) :
    power.takeWhile Char.isDigit = [] ∧ power.dropWhile Char.isDigit = power ∧
      ∀ rest, power ≠ '.' :: rest := by
  cases scaled with
  | absent => simp
  | written opens => rcases opens with rfl | rfl <;> simp [List.takeWhile, List.dropWhile]

/-- Digits end where something else begins. -/
theorem span_append {digits : List Char} (all : ∀ c ∈ digits, c.isDigit = true) {rest : List Char}
    (taken : rest.takeWhile Char.isDigit = []) (dropped : rest.dropWhile Char.isDigit = rest) :
    (digits ++ rest).takeWhile Char.isDigit = digits ∧
      (digits ++ rest).dropWhile Char.isDigit = rest := by
  rw [List.takeWhile_append_of_pos all, List.dropWhile_append_of_pos all, taken, dropped,
    List.append_nil]
  exact ⟨rfl, rfl⟩

/-- A mantissa and an exponent are read as a decimal. -/
theorem parseDecimal?_of_spells {mantissa power : List Char} {coefficient places : ℕ} {exponent : ℤ}
    (digits : SpellsMantissa mantissa coefficient places) (scaled : SpellsExponent power exponent)
    (negative : Bool) :
    parseDecimal? negative (mantissa ++ power) =
      some (.decimal negative coefficient (exponent - places)) := by
  obtain ⟨taken, dropped, pointless⟩ := span_exponent scaled
  have read := parseExponent?_of_spells scaled
  cases digits with
  | whole numeral =>
    obtain ⟨front, back⟩ := span_append numeral.2 taken dropped
    have nonempty : (mantissa.isEmpty && ([] : List Char).isEmpty) = false := by
      simpa [← Bool.not_eq_true] using numeral.1
    unfold parseDecimal?
    simp only [front, back, nonempty, read, Option.map_some, Bool.false_eq_true, if_false,
      List.append_nil, List.length_nil]
  | @pointed whole fraction numeral =>
    obtain ⟨before, after⟩ := List.forall_mem_append.1 numeral.2
    have point : ('.' :: (fraction ++ power)).takeWhile Char.isDigit = [] := rfl
    obtain ⟨front, back⟩ := span_append before point rfl
    obtain ⟨inner, last⟩ := span_append after taken dropped
    have nonempty : (whole.isEmpty && fraction.isEmpty) = false := by
      simpa [← Bool.not_eq_true] using numeral.1
    rw [List.append_assoc, List.cons_append]
    unfold parseDecimal?
    simp only [front, back, inner, last, read, nonempty, Option.map_some, Bool.false_eq_true,
      if_false]

/-- Only letters are changed by going to the lower case. -/
theorem toLower_eq_self {c : Char} (outside : c.toNat < 65 ∨ 90 < c.toNat) : c.toLower = c := by
  refine dif_neg fun ⟨least, greatest⟩ => ?_
  have least : 65 ≤ c.toNat := least
  have greatest : c.toNat ≤ 90 := greatest
  omega

/-- A word begins with a letter, which stands behind the signs, the point and the digits. -/
theorem head_of_word {word : List Char}
    (spelled : word.map Char.toLower ∈ ["inf".toList, "infinity".toList, "nan".toList]) :
    ∃ c rest, word = c :: rest ∧ 57 < c.toNat := by
  cases word with
  | nil => exact absurd spelled (by decide)
  | cons c rest =>
    refine ⟨c, rest, rfl, ?_⟩
    have first : c.toLower = 'i' ∨ c.toLower = 'n' := by
      simp only [List.map_cons, List.mem_cons, List.not_mem_nil, or_false] at spelled
      rcases spelled with inf | infinity | nan
      · exact .inl (List.cons.inj inf).1
      · exact .inl (List.cons.inj infinity).1
      · exact .inr (List.cons.inj nan).1
    by_contra low
    rw [toLower_eq_self (by omega)] at first
    rcases first with rfl | rfl <;> exact low (by decide)

/-- A word has no sign in front and is no decimal, so it is read as a word behind its sign. -/
theorem parse?_word {sign word : List Char} {negative : Bool} (signed : SpellsSign sign negative)
    (spelled : word.map Char.toLower ∈ ["inf".toList, "infinity".toList, "nan".toList]) :
    parse? (sign ++ word) = parseWord? negative word := by
  obtain ⟨c, rest, rfl, letter⟩ := head_of_word spelled
  have digit : c.isDigit = false := by
    rw [← Bool.not_eq_true]
    intro digit
    simp only [Char.isDigit, Bool.and_eq_true, decide_eq_true_eq] at digit
    have greatest : c.toNat ≤ 57 := digit.2
    omega
  have solid (mark : Char) (low : mark.toNat ≤ 57) : c ≠ mark := by
    rintro rfl
    omega
  have bare : IsBare (c :: rest) := isBare_cons ⟨solid '+' (by decide), solid '-' (by decide)⟩ rest
  have point : c ≠ '.' := solid '.' (by decide)
  have none : parseDecimal? negative (c :: rest) = none := by
    simp [parseDecimal?, List.takeWhile, List.dropWhile, digit, point]
  rw [parse?_eq_or, splitSign_append signed bare, none, Option.none_or]

theorem parse?_of_spells {text : List Char} {literal : Literal} (spells : Spells text literal) :
    parse? text = some literal := by
  cases spells with
  | decimal signed digits scaled =>
    rw [parse?_eq_or, splitSign_append signed (isBare_mantissa digits _),
      parseDecimal?_of_spells digits scaled, Option.some_or]
  | infinite signed spelled =>
    rw [parse?_word signed (List.mem_append_left ["nan".toList] spelled), parseWord?]
    refine if_pos ?_
    simp only [List.mem_cons, List.not_mem_nil, or_false] at spelled
    rcases spelled with inf | infinity
    · exact .inl (by rw [inf, String.ofList_toList])
    · exact .inr (by rw [infinity, String.ofList_toList])
  | nan signed spelled =>
    rw [parse?_word signed (by simp [spelled]), parseWord?, spelled]
    rfl

/-- A text is read as a literal exactly if it spells it. -/
theorem parse?_eq_some_iff {text : List Char} {literal : Literal} :
    parse? text = some literal ↔ Spells text literal :=
  ⟨spells_of_parse?, parse?_of_spells⟩

/-- A natural number is written with digits. -/
theorem isNumeral_toDigits (n : ℕ) : IsNumeral (Nat.toDigits 10 n) :=
  ⟨Nat.toDigits_ne_nil, fun _ inside => Nat.isDigit_of_mem_toDigits (by decide) le_rfl inside⟩

/-- They are read back as the number. -/
theorem digitsValue_toDigits (n : ℕ) : digitsValue (Nat.toDigits 10 n) = n :=
  Nat.ofDigitChars_toDigits (by decide) le_rfl

/-- Digits behind a sign are read as the whole number that they write. -/
theorem parse?_numeral {sign digits : List Char} {negative : Bool}
    (signed : SpellsSign sign negative) (numeral : IsNumeral digits) :
    parse? (sign ++ digits) = some (.decimal negative (digitsValue digits) 0) := by
  have spells := Spells.decimal signed (.whole numeral) .absent
  have unscaled : (0 - (0 : ℕ) : ℤ) = 0 := rfl
  rw [List.append_nil, unscaled] at spells
  exact parse?_of_spells spells

end Literal

end Converge
