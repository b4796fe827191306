import Converge.Proofs.Number.LiteralText
import Converge.Quantity

/-!
# The grammar of quantities

A quantity is a literal that is followed by a unit, and a `Quantity.Division` of a text is a way to
take it apart so. The units do not end with one another, and no literal ends like a unit, so a text
has one division at most.

This is why nothing is lost by cutting off the first suffix that fits. The texts that are read are
those with a division whose literal is finite and not below zero, and any other order of the suffixes
gives the same amounts: `Quantity.reads_divisions`.
-/

namespace Converge

namespace Quantity

/-- The suffixes with the factors that they stand for, and the empty suffix, which stands for one. -/
def units : List (List Char × Binary64) := ([], .ofNat 1) :: suffixes

/-- A text taken apart into a literal and the suffix of a unit. -/
structure Division (text : List Char) where
  number : List Char
  suffix : List Char
  literal : Literal
  factor : Binary64
  text_eq : text = number ++ suffix
  listed : (suffix, factor) ∈ units
  spells : Literal.Spells number literal

/-- The ways to cut off a suffix of a table, in its order. -/
def candidates (table : List (List Char × Binary64)) (text : List Char) :
    List (List Char × Binary64) :=
  table.filterMap fun entry =>
    (Text.dropEnding? entry.1 text).map fun number => (number, entry.2)

/-- Splitting as `splitSuffix` does it, with the suffixes in the order of a table. -/
def splitBy (table : List (List Char × Binary64)) (text : List Char) : List Char × Binary64 :=
  (candidates table text).headD (text, .ofNat 1)

/-- Reading as `parse?` does it, with the suffixes in the order of a table. -/
def parseBy? (table : List (List Char × Binary64)) (text : String) : Option Binary64 :=
  let split := splitBy table (Text.trim text.toList)
  match number? split.1 with
  | some value => if isAmount value then some (value.mul split.2) else none
  | none => none

theorem splitBy_suffixes : splitBy suffixes = splitSuffix := by
  unfold splitBy candidates splitSuffix
  rfl

/-! ## Looking for a suffix -/

theorem mem_candidates_iff {table : List (List Char × Binary64)} {text number : List Char}
    {factor : Binary64} :
    (number, factor) ∈ candidates table text ↔
      ∃ suffix, (suffix, factor) ∈ table ∧ text = number ++ suffix := by
  constructor
  · intro inside
    obtain ⟨⟨suffix, _⟩, listed, found⟩ := List.mem_filterMap.1 inside
    obtain ⟨_, cut, same⟩ := Option.map_eq_some_iff.1 found
    cases same
    exact ⟨suffix, listed, Text.dropEnding?_eq_some_iff.1 cut⟩
  · rintro ⟨suffix, listed, text_eq⟩
    refine List.mem_filterMap.2 ⟨(suffix, factor), listed, ?_⟩
    exact Option.map_eq_some_iff.2 ⟨number, Text.dropEnding?_eq_some_iff.2 text_eq, rfl⟩

/-- No suffix ends with another one. -/
theorem suffix_free : ∀ entry ∈ suffixes, ∀ other ∈ suffixes, entry.1 <:+ other.1 → entry = other := by
  decide +kernel

/-- So a text has one of them at most. -/
theorem eq_of_suffix {entry other : List Char × Binary64} (listed : entry ∈ suffixes)
    (also_listed : other ∈ suffixes) {text : List Char} (ends : entry.1 <:+ text)
    (also_ends : other.1 <:+ text) : entry = other := by
  rcases List.suffix_or_suffix_of_suffix ends also_ends with shorter | longer
  · exact suffix_free _ listed _ also_listed shorter
  · exact (suffix_free _ also_listed _ listed longer).symm

/-- A text has no suffix, or it is a number in front of one. -/
theorem plain_or_suffixed (text : List Char) :
    (∀ entry ∈ suffixes, Text.dropEnding? entry.1 text = none) ∨
      ∃ number suffix factor, (suffix, factor) ∈ suffixes ∧ text = number ++ suffix := by
  by_cases plain : ∀ entry ∈ suffixes, Text.dropEnding? entry.1 text = none
  · exact .inl plain
  · obtain ⟨⟨suffix, factor⟩, suffixed⟩ := not_forall.1 plain
    obtain ⟨listed, ends⟩ := Classical.not_imp.1 suffixed
    obtain ⟨number, cut⟩ := Option.ne_none_iff_exists'.1 ends
    exact .inr ⟨number, suffix, factor, listed, Text.dropEnding?_eq_some_iff.1 cut⟩

section Table

variable {table : List (List Char × Binary64)} (order : table.Perm suffixes)

include order

/-- A text with no suffix is all number. -/
theorem splitBy_of_plain {text : List Char}
    (plain : ∀ entry ∈ suffixes, Text.dropEnding? entry.1 text = none) :
    splitBy table text = (text, .ofNat 1) := by
  have nothing : candidates table text = [] := by
    refine List.filterMap_eq_nil_iff.2 fun entry inside => ?_
    exact Option.map_eq_none_iff.2 (plain entry (order.mem_iff.1 inside))
  rw [splitBy, nothing]
  rfl

/-- A suffix is found wherever it stands in the table, as no other one fits. -/
theorem splitBy_append {suffix : List Char} {factor : Binary64}
    (listed : (suffix, factor) ∈ suffixes) (number : List Char) :
    splitBy table (number ++ suffix) = (number, factor) := by
  have fits : (number, factor) ∈ candidates table (number ++ suffix) :=
    mem_candidates_iff.2 ⟨suffix, order.mem_iff.2 listed, rfl⟩
  have only : ∀ candidate ∈ candidates table (number ++ suffix), candidate = (number, factor) := by
    rintro ⟨front, other⟩ inside
    obtain ⟨ending, member, cut⟩ := mem_candidates_iff.1 inside
    have same := eq_of_suffix (order.mem_iff.1 member) listed ⟨front, cut.symm⟩ ⟨number, rfl⟩
    cases same
    rw [List.append_cancel_right cut]
  unfold splitBy
  cases found : candidates table (number ++ suffix) with
  | nil =>
    rw [found] at fits
    cases fits
  | cons candidate rest =>
    rw [found] at only
    exact only candidate List.mem_cons_self

/-- The order of the suffixes does not matter, whatever the text is. -/
theorem splitBy_eq_splitSuffix (text : List Char) : splitBy table text = splitSuffix text := by
  rw [← splitBy_suffixes]
  rcases plain_or_suffixed text with plain | ⟨number, suffix, factor, listed, rfl⟩
  · rw [splitBy_of_plain order plain, splitBy_of_plain (.refl _) plain]
  · rw [splitBy_append order listed, splitBy_append (.refl _) listed]

theorem parseBy?_eq_parse? (text : String) : parseBy? table text = parse? text := by
  have same := splitBy_eq_splitSuffix order (Text.trim text.toList)
  unfold parseBy? parse?
  generalize splitBy table (Text.trim text.toList) = split at same ⊢
  subst same
  generalize splitSuffix (Text.trim text.toList) = split
  rfl

end Table

/-- A text that ends as literals do has no suffix. -/
theorem plain_of_isFinal {text : List Char} {final : Char} (ends : text.getLast? = some final)
    (closes : Literal.isFinal final = true) :
    ∀ entry ∈ suffixes, Text.dropEnding? entry.1 text = none := by
  have suffixed : ∀ entry ∈ suffixes,
      entry.1.getLast?.any (fun c => !Literal.isFinal c) = true := by
    decide
  intro entry inside
  obtain ⟨c, last, opens⟩ := (Option.any_eq_true _ _).1 (suffixed entry inside)
  refine Text.dropEnding?_eq_none ends last ?_
  rintro rfl
  rw [closes] at opens
  cases opens

/-- A literal is split from any unit behind it. -/
theorem splitSuffix_append {number suffix : List Char} {literal : Literal} {factor : Binary64}
    (spells : Literal.Spells number literal) (listed : (suffix, factor) ∈ units) :
    splitSuffix (number ++ suffix) = (number, factor) := by
  rw [← splitBy_suffixes]
  rcases List.mem_cons.1 listed with none | suffixed
  · cases none
    obtain ⟨_, final, ends, closes⟩ := spells.written
    rw [List.append_nil]
    exact splitBy_of_plain (.refl _) (plain_of_isFinal ends closes)
  · exact splitBy_append (.refl _) suffixed number

/-! ## Divisions -/

namespace Division

variable {text : List Char}

/-- A text is split as it is divided. -/
theorem splitSuffix_eq (division : Division text) :
    splitSuffix text = (division.number, division.factor) := by
  calc splitSuffix text
      = splitSuffix (division.number ++ division.suffix) := congrArg splitSuffix division.text_eq
    _ = (division.number, division.factor) := splitSuffix_append division.spells division.listed

/-- There is one way to divide a text at most. -/
instance : Subsingleton (Division text) where
  allEq := by
    intro first second
    have split := first.splitSuffix_eq.symm.trans second.splitSuffix_eq
    have number : first.number = second.number := congrArg Prod.fst split
    have factor : first.factor = second.factor := congrArg Prod.snd split
    have suffix : first.suffix = second.suffix := by
      have same := first.text_eq.symm.trans second.text_eq
      rw [number] at same
      exact List.append_cancel_left same
    have literal : first.literal = second.literal := by
      have read := Literal.parse?_of_spells first.spells
      rw [number, Literal.parse?_of_spells second.spells] at read
      exact (Option.some.inj read).symm
    cases first
    cases second
    cases number
    cases suffix
    cases literal
    cases factor
    rfl

/-- What is split off in front of a literal divides a text. -/
theorem exists_of_splitSuffix {literal : Literal}
    (spells : Literal.Spells (splitSuffix text).1 literal) :
    ∃ division : Division text, division.literal = literal ∧
      division.factor = (splitSuffix text).2 := by
  rcases plain_or_suffixed text with plain | ⟨number, suffix, factor, listed, rfl⟩
  · rw [← splitBy_suffixes, splitBy_of_plain (.refl _) plain] at spells ⊢
    exact ⟨⟨text, [], literal, _, (List.append_nil text).symm, List.mem_cons_self, spells⟩, rfl, rfl⟩
  · rw [← splitBy_suffixes, splitBy_append (.refl _) listed] at spells ⊢
    exact ⟨⟨number, suffix, literal, factor, rfl, List.mem_cons_of_mem _ listed, spells⟩, rfl, rfl⟩

end Division

/-- The literal in front of the suffix of a text, and the factor of the suffix. -/
def parts? (text : String) : Option (Literal × Binary64) :=
  let split := splitSuffix (Text.trim text.toList)
  (Literal.parse? split.1).map fun literal => (literal, split.2)

/-- They are those of its division. -/
theorem parts?_eq_some_iff {text : String} {literal : Literal} {factor : Binary64} :
    parts? text = some (literal, factor) ↔
      ∃ division : Division (Text.trim text.toList),
        division.literal = literal ∧ division.factor = factor := by
  constructor
  · intro parts
    obtain ⟨_, read, same⟩ := Option.map_eq_some_iff.1 parts
    cases same
    exact Division.exists_of_splitSuffix (Literal.spells_of_parse? read)
  · rintro ⟨division, rfl, rfl⟩
    rw [parts?, division.splitSuffix_eq]
    dsimp only
    rw [Literal.parse?_of_spells division.spells, Option.map_some]

/-- A text is read if it has parts and the value of its literal is an amount. -/
theorem parse?_eq_bind (text : String) :
    parse? text = (parts? text).bind fun (literal, factor) =>
      if isAmount literal.toBinary64 then some (literal.toBinary64.mul factor) else none := by
  unfold parse? parts? number?
  generalize splitSuffix (Text.trim text.toList) = split
  obtain ⟨number, factor⟩ := split
  dsimp only
  cases Literal.parse? number <;> rfl

theorem parse?_eq_some_iff {text : String} {amount : Binary64} :
    parse? text = some amount ↔
      ∃ division : Division (Text.trim text.toList), isAmount division.literal.toBinary64 = true ∧
        amount = division.literal.toBinary64.mul division.factor := by
  rw [parse?_eq_bind, Option.bind_eq_some_iff]
  constructor
  · rintro ⟨⟨literal, factor⟩, parts, read⟩
    obtain ⟨division, rfl, rfl⟩ := parts?_eq_some_iff.1 parts
    dsimp only at read
    split at read
    · next valid => exact ⟨division, valid, (Option.some.inj read).symm⟩
    · cases read
  · rintro ⟨division, valid, rfl⟩
    exact ⟨_, parts?_eq_some_iff.2 ⟨division, rfl, rfl⟩, if_pos valid⟩

theorem parse_eq_ok_iff {text : String} {amount : Binary64} :
    parse text = .ok amount ↔ parse? text = some amount := by
  unfold parse
  cases parse? text <;> simp

/-- The check of an amount of bytes is passed exactly if the amount is read. -/
theorem checkMemory_eq_ok_iff_exists {text : String} :
    checkMemory text = .ok () ↔ ∃ amount, parse? text = some amount := by
  unfold checkMemory parse
  cases parse? text <;> simp [Except.map]

theorem checkCores_eq_ok_iff_isCores {text : String} :
    checkCores text = .ok () ↔ isCores text = true := by
  unfold checkCores
  cases isCores text <;> simp

/-- A text is read exactly if it has a division, blanks around it aside, whose literal is rounded to a
finite value that is not below zero; its amount is this value times the factor of the unit. There is
one division at most, and the order of the suffixes does not matter. -/
theorem reads_divisions (text : String) :
    (∀ amount, parse text = .ok amount ↔
      ∃ division : Division (Text.trim text.toList),
        division.literal.toBinary64.isFinite = true ∧
          division.literal.toBinary64.lt (.zero false) = false ∧
          amount = division.literal.toBinary64.mul division.factor) ∧
      Subsingleton (Division (Text.trim text.toList)) ∧
      ∀ table, table.Perm suffixes → parseBy? table text = parse? text := by
  refine ⟨fun amount => ?_, inferInstance, fun _ order => parseBy?_eq_parse? order text⟩
  rw [parse_eq_ok_iff, parse?_eq_some_iff]
  simp only [isAmount, Bool.and_eq_true, Bool.not_eq_true', and_assoc]

/-- Five mebibytes between blanks. -/
def fiveMebibytes : Division (Text.trim " 5Mi\n".toList) where
  number := ['5']
  suffix := ['M', 'i']
  literal := .decimal false 5 0
  factor := .ofNat (1 <<< 20)
  text_eq := by decide
  listed := by decide
  spells := Literal.spells_of_parse? (by decide)

/-- They are read so though the table is searched from its end, where the shorter suffixes stand. -/
theorem reads_five_mebibytes :
    parse " 5Mi\n" = .ok (.finite false 5629499534213120 (-30)) ∧
      parseBy? suffixes.reverse " 5Mi\n" = some (.finite false 5629499534213120 (-30)) := by
  obtain ⟨reads, _, orders⟩ := reads_divisions " 5Mi\n"
  have read : parse " 5Mi\n" = .ok (.finite false 5629499534213120 (-30)) := by
    refine (reads _).2 ⟨fiveMebibytes, ?_, ?_, ?_⟩ <;> decide +kernel
  rw [orders suffixes.reverse (List.reverse_perm _), parse_eq_ok_iff.1 read]
  exact ⟨read, rfl⟩

end Quantity

end Converge
