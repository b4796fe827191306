/-!
# Cutting and filling texts

Operations on texts as lists of characters: cutting at a separator, taking a known ending off,
and filling up to a width. A cut that finds no separator says so, and two parts that are joined by a
separator which is not in the first are found again.
-/

namespace Converge.Text

/-- The parts before and after the first `separator`, if there is one. -/
def splitFirst? (separator : Char) : List Char → Option (List Char × List Char)
  | [] => none
  | c :: rest =>
    if c = separator then some ([], rest)
    else (splitFirst? separator rest).map fun parts => (c :: parts.1, parts.2)

/-- The part after the last `separator`; the whole text if there is none. -/
def afterLast (separator : Char) (text : List Char) : List Char :=
  (text.reverse.takeWhile (· ≠ separator)).reverse

/-- A text without the given ending, if it ends so. -/
def dropEnding? (ending text : List Char) : Option (List Char) :=
  if ending.isSuffixOf text then some (text.take (text.length - ending.length)) else none

/-- A text without the given opening, if it opens so. -/
def dropOpening? : List Char → List Char → Option (List Char)
  | [], text => some text
  | _ :: _, [] => none
  | a :: opening, c :: text => if a = c then dropOpening? opening text else none

/-- A text filled with spaces on the right up to `width` characters. -/
def padRight (width : Nat) (text : String) : String :=
  text ++ String.ofList (List.replicate (width - text.length) ' ')

/-- A text without an ending is what stands in front of it. -/
theorem dropEnding?_eq_some_iff {ending text front : List Char} :
    dropEnding? ending text = some front ↔ text = front ++ ending := by
  unfold dropEnding?
  split
  · next ends =>
    obtain ⟨before, rfl⟩ := List.isSuffixOf_iff_suffix.1 ends
    simp [eq_comm]
  · next differs =>
    refine iff_of_false (by simp) ?_
    rintro rfl
    exact differs (List.isSuffixOf_iff_suffix.2 (List.suffix_append _ _))

/-- A text has not the ending if its last character is another one. -/
theorem dropEnding?_eq_none {ending text : List Char} {final last : Char}
    (ends : text.getLast? = some final) (closes : ending.getLast? = some last)
    (differ : last ≠ final) : dropEnding? ending text = none := by
  cases dropped : dropEnding? ending text with
  | none => rfl
  | some front =>
    rw [dropEnding?_eq_some_iff.1 dropped, List.getLast?_append, closes] at ends
    exact absurd (Option.some.inj ends) differ

/-- A text without an opening is what stands behind it. -/
theorem dropOpening?_eq_some_iff {opening text rest : List Char} :
    dropOpening? opening text = some rest ↔ text = opening ++ rest := by
  induction opening generalizing text with
  | nil => simp [dropOpening?]
  | cons a opening ih =>
    cases text with
    | nil => simp [dropOpening?]
    | cons c text =>
      by_cases same : a = c
      · simp [dropOpening?, same, ih]
      · simp [dropOpening?, same, Ne.symm same]

/-- A text has no cut exactly when the separator does not occur. -/
theorem splitFirst?_eq_none_iff {separator : Char} {text : List Char} :
    splitFirst? separator text = none ↔ separator ∉ text := by
  induction text with
  | nil => simp [splitFirst?]
  | cons c rest ih =>
    simp only [splitFirst?, List.mem_cons, not_or]
    split
    · next same => simp [same]
    · next differs => simp [ih, Ne.symm differs]

/-- A text is cut at the separator that no other one comes before. -/
theorem splitFirst?_append {separator : Char} {before : List Char} (absent : separator ∉ before)
    (after : List Char) :
    splitFirst? separator (before ++ separator :: after) = some (before, after) := by
  induction before with
  | nil => simp [splitFirst?]
  | cons c rest ih =>
    rw [List.mem_cons, not_or] at absent
    simp [splitFirst?, Ne.symm absent.1, ih absent.2]

/-- The whole of a text stands behind a separator that does not occur. -/
theorem afterLast_eq_self {separator : Char} {text : List Char} (absent : separator ∉ text) :
    afterLast separator text = text := by
  have others : ∀ c ∈ text.reverse, decide (c ≠ separator) = true := by
    intro c inside
    refine decide_eq_true ?_
    rintro rfl
    exact absent (List.mem_reverse.1 inside)
  rw [afterLast, ← List.append_nil text.reverse, List.takeWhile_append_of_pos others]
  simp

/-- What stands in front of a separator is not behind the last one. -/
theorem afterLast_append (separator : Char) (before after : List Char) :
    afterLast separator (before ++ separator :: after) = afterLast separator after := by
  have turned : (before ++ separator :: after).reverse =
      after.reverse ++ separator :: before.reverse := by
    simp
  rw [afterLast, afterLast, turned, List.takeWhile_append]
  split
  · next complete =>
    rw [List.takeWhile_cons_of_neg (by simp), List.append_nil]
    exact congrArg List.reverse ((List.takeWhile_prefix _).eq_of_length complete).symm
  · rfl

end Converge.Text
