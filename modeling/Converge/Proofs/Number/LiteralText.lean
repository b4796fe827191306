import Converge.Proofs.Number.LiteralGrammar
import Converge.Text.Blank

/-!
# The texts of number literals

Literals are written with a few characters, none of which is a blank, and end with a digit, a point or
the last letter of a word (`Literal.Spells.written`). It follows from the grammar, rule by rule.
-/

namespace Converge

namespace Literal

/-- Whether literals are written with a character. -/
def isMark (c : Char) : Bool :=
  c.isDigit || ['.', '+', '-'].contains c || "aefinty".toList.contains c.toLower

/-- Whether literals end with a character: a digit, the point, or the end of a word. -/
def isFinal (c : Char) : Bool :=
  c.isDigit || c == '.' || "fny".toList.contains c.toLower

/-- A text is written with the characters of literals and ends as they do. -/
structure Written (text : List Char) : Prop where
  marks : ∀ c ∈ text, isMark c = true
  final : ∃ c, text.getLast? = some c ∧ isFinal c = true

theorem isMark_of_isDigit {c : Char} (digit : c.isDigit = true) : isMark c = true := by
  simp [isMark, digit]

/-- Literals are written without blanks. -/
theorem isBlank_of_isMark {c : Char} (mark : isMark c = true) : Text.isBlank c = false := by
  rw [← Bool.not_eq_true]
  intro blank
  have outside : c.toNat < 48 ∨ 122 < c.toNat := by
    simp only [Text.isBlank, Bool.or_eq_true, Bool.and_eq_true, decide_eq_true_eq,
      beq_iff_eq] at blank
    omega
  have kept : c.toLower = c := toLower_eq_self (by omega)
  simp only [isMark, kept, Bool.or_eq_true, List.contains_iff_mem] at mark
  rcases mark with (digit | sign) | letter
  · simp only [Char.isDigit, Bool.and_eq_true, decide_eq_true_eq] at digit
    have least : 48 ≤ c.toNat := digit.1
    have greatest : c.toNat ≤ 57 := digit.2
    omega
  · have solid : ∀ c ∈ ['.', '+', '-'], Text.isBlank c = false := by simp [Text.isBlank]
    exact Bool.false_ne_true ((solid c sign).symm.trans blank)
  · have solid : ∀ c ∈ "aefinty".toList, Text.isBlank c = false := by simp [Text.isBlank]
    exact Bool.false_ne_true ((solid c letter).symm.trans blank)

/-- What is in front of a written text may be any characters of literals. -/
theorem Written.append {front text : List Char} (marks : ∀ c ∈ front, isMark c = true)
    (written : Written text) : Written (front ++ text) := by
  obtain ⟨c, last, closes⟩ := written.final
  refine ⟨List.forall_mem_append.2 ⟨marks, written.marks⟩, c, ?_, closes⟩
  rw [List.getLast?_append, last, Option.some_or]

/-- Digits are written so. -/
theorem IsNumeral.written {digits : List Char} (numeral : IsNumeral digits) : Written digits := by
  refine ⟨fun c inside => isMark_of_isDigit (numeral.2 c inside), digits.getLast numeral.1, ?_, ?_⟩
  · exact List.getLast?_eq_some_getLast numeral.1
  · simp [isFinal, numeral.2 _ (List.getLast_mem numeral.1)]

theorem SpellsSign.marks {sign : List Char} {negative : Bool} (signed : SpellsSign sign negative) :
    ∀ c ∈ sign, isMark c = true := by
  cases signed with
  | absent => exact List.forall_mem_nil _
  | plus | minus => exact List.forall_mem_singleton.2 rfl

/-- A mantissa ends with a digit or with its point. -/
theorem SpellsMantissa.written {mantissa : List Char} {coefficient places : ℕ}
    (digits : SpellsMantissa mantissa coefficient places) : Written mantissa := by
  cases digits with
  | whole numeral => exact numeral.written
  | @pointed whole fraction numeral =>
    obtain ⟨before, after⟩ := List.forall_mem_append.1 numeral.2
    have point : ∀ c ∈ ['.'], isMark c = true := List.forall_mem_singleton.2 rfl
    refine Written.append (fun c inside => isMark_of_isDigit (before c inside)) ?_
    by_cases bare : fraction = []
    · rw [bare]
      exact ⟨point, '.', rfl, rfl⟩
    · exact (IsNumeral.written ⟨bare, after⟩).append point

/-- An exponent may follow. -/
theorem SpellsExponent.written_append {front power : List Char} {exponent : ℤ}
    (scaled : SpellsExponent power exponent) (written : Written front) : Written (front ++ power) := by
  cases scaled with
  | absent => rwa [List.append_nil]
  | @written letter _ _ _ opens signed numeral =>
    have letter : isMark letter = true := by rcases opens with rfl | rfl <;> decide
    refine Written.append written.marks ?_
    exact (numeral.written.append signed.marks).append (List.forall_mem_singleton.2 letter)

/-- The words are written so. -/
theorem written_of_word {word : List Char}
    (spelled : word.map Char.toLower ∈ ["inf".toList, "infinity".toList, "nan".toList]) :
    Written word := by
  have letters : ∀ word ∈ ["inf".toList, "infinity".toList, "nan".toList],
      word.all "aefinty".toList.contains = true ∧
        word.getLast?.any "fny".toList.contains = true := by
    decide
  obtain ⟨marks, closes⟩ := letters _ spelled
  obtain ⟨last, last_eq, closes⟩ := (Option.any_eq_true _ _).1 closes
  refine ⟨fun c inside => ?_, ?_⟩
  · rw [isMark, List.all_eq_true.1 marks _ (List.mem_map_of_mem inside), Bool.or_true]
  · rw [List.getLast?_map] at last_eq
    obtain ⟨c, final, rfl⟩ := Option.map_eq_some_iff.1 last_eq
    exact ⟨c, final, by rw [isFinal, closes, Bool.or_true]⟩

/-- So is every literal. -/
theorem Spells.written {text : List Char} {literal : Literal} (spells : Spells text literal) :
    Written text := by
  cases spells with
  | decimal signed digits scaled =>
    exact (scaled.written_append digits.written).append signed.marks
  | infinite signed spelled =>
    exact (written_of_word (List.mem_append_left ["nan".toList] spelled)).append signed.marks
  | nan signed spelled => exact (written_of_word (by simp [spelled])).append signed.marks

end Literal

end Converge
