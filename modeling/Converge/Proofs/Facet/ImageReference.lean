import Converge.ImageReference

/-!
# The parts of an image reference

An image reference names directories, the first of which may be a registry with its port, then the
image, and behind it a tag and a digest, each of which may be missing. The policy of an image is found
without taking its reference apart, by looking for marks: an `@` anywhere, and else the first colon
behind the last slash. The same mark means different things in different places, and still the tag and
the digest are found, whatever the directories are: `ImageReference.inferredPolicy_text`.
-/

namespace Converge.ImageReference

/-- Whether a character is none of the marks between parts. -/
def IsPlain (c : Char) : Prop := c ≠ '/' ∧ c ≠ ':' ∧ c ≠ '@'

/-- The parts of an image reference. A directory may have a colon, since a registry may have a port;
nothing is asked of a digest, behind which no part follows. -/
structure Parts where
  directories : List String
  name : String
  tag : Option String
  digest : Option String
  directories_plain : ∀ directory ∈ directories, '/' ∉ directory.toList ∧ '@' ∉ directory.toList
  name_plain : ∀ c ∈ name.toList, IsPlain c
  tag_plain : ∀ text ∈ tag, ∀ c ∈ text.toList, IsPlain c

namespace Parts

/-- A part behind its mark, if there is one. -/
def marked (mark : Char) (part : Option String) : String :=
  (part.map (String.singleton mark ++ ·)).getD ""

/-- The image with its tag. -/
def segment (parts : Parts) : String := parts.name ++ marked ':' parts.tag

/-- The reference as it is written. -/
def text (parts : Parts) : String :=
  String.join (parts.directories.map (· ++ "/")) ++ parts.segment ++ marked '@' parts.digest

/-- There is a digest, or a tag that names a version other than the latest. -/
def IsPinned (parts : Parts) : Prop :=
  parts.digest.isSome = true ∨ ∃ tag, parts.tag = some tag ∧ tag ≠ "" ∧ tag ≠ "latest"

variable (parts : Parts)

theorem toList_marked (mark : Char) (part : Option String) :
    (marked mark part).toList = (part.map fun text => mark :: text.toList).getD [] := by
  cases part <;> simp [marked]

/-- The image with its tag has no other mark than a colon. -/
theorem eq_or_isPlain_of_mem_segment {c : Char} (inside : c ∈ parts.segment.toList) :
    c = ':' ∨ IsPlain c := by
  rw [segment, String.toList_append, toList_marked, List.mem_append] at inside
  rcases inside with name | tagged
  · exact .inr (parts.name_plain c name)
  · cases tag : parts.tag with
    | none =>
      rw [tag] at tagged
      cases tagged
    | some text =>
      rw [tag, Option.map_some, Option.getD_some, List.mem_cons] at tagged
      exact tagged.imp_right (parts.tag_plain text tag c)

/-- The image with its tag is cut at the tag. -/
theorem splitFirst?_segment :
    Text.splitFirst? ':' parts.segment.toList =
      parts.tag.map fun text => (parts.name.toList, text.toList) := by
  have absent : ':' ∉ parts.name.toList := fun inside => (parts.name_plain ':' inside).2.1 rfl
  rw [segment, String.toList_append, toList_marked]
  cases parts.tag with
  | none =>
    rw [Option.map_none, Option.getD_none, List.append_nil]
    exact Text.splitFirst?_eq_none_iff.2 absent
  | some text => exact Text.splitFirst?_append absent text.toList

/-- No directory stands behind the last slash. -/
theorem afterLast_directories (directories : List String) (rest : List Char) :
    Text.afterLast '/' ((String.join (directories.map (· ++ "/"))).toList ++ rest) =
      Text.afterLast '/' rest := by
  rw [String.toList_join, List.flatMap_map]
  induction directories with
  | nil => rfl
  | cons directory others ih =>
    rw [List.flatMap_cons, String.toList_append, List.append_assoc, List.append_assoc]
    exact (Text.afterLast_append '/' directory.toList _).trans ih

/-- Without a digest the image with its tag is what stands behind the last slash. -/
theorem afterLast_text (unsigned : parts.digest = none) :
    Text.afterLast '/' parts.text.toList = parts.segment.toList := by
  have absent : '/' ∉ parts.segment.toList := by
    intro inside
    rcases parts.eq_or_isPlain_of_mem_segment inside with colon | plain
    · exact absurd colon (by decide)
    · exact plain.1 rfl
  rw [text, unsigned, String.toList_append, String.toList_append, toList_marked, Option.map_none,
    Option.getD_none, List.append_nil, afterLast_directories, Text.afterLast_eq_self absent]

/-- The mark of a digest stands in a reference exactly if the reference has one. -/
theorem mem_text_iff : '@' ∈ parts.text.toList ↔ parts.digest.isSome = true := by
  have directories : '@' ∉ (String.join (parts.directories.map (· ++ "/"))).toList := by
    rw [String.toList_join, List.flatMap_map, List.mem_flatMap]
    rintro ⟨directory, listed, inside⟩
    rw [String.toList_append, List.mem_append] at inside
    rcases inside with inside | slash
    · exact (parts.directories_plain directory listed).2 inside
    · exact absurd slash (by decide)
  have segment : '@' ∉ parts.segment.toList := by
    intro inside
    rcases parts.eq_or_isPlain_of_mem_segment inside with colon | plain
    · exact absurd colon (by decide)
    · exact plain.2.2 rfl
  rw [text, String.toList_append, String.toList_append, toList_marked, List.mem_append,
    List.mem_append]
  simp only [directories, segment, false_or]
  cases parts.digest <;> simp

theorem isPinned_text : isPinned parts.text = true ↔ parts.IsPinned := by
  rw [isPinned, Bool.or_eq_true, List.contains_iff_mem, mem_text_iff, IsPinned]
  cases digest : parts.digest with
  | some text => exact iff_of_true (.inl rfl) (.inl rfl)
  | none =>
    rw [parts.afterLast_text digest, splitFirst?_segment]
    cases parts.tag with
    | none => simp
    | some tag =>
      have named : (!tag.toList.isEmpty) = true ↔ tag ≠ "" := by
        rw [Bool.not_eq_true', List.isEmpty_eq_false_iff, Ne, String.toList_eq_nil_iff]
      have fixed : (tag.toList != "latest".toList) = true ↔ tag ≠ "latest" := by
        rw [bne_iff_ne, Ne, String.toList_inj]
      simp only [Option.map_some, Bool.and_eq_true, named, fixed, Option.some.injEq,
        exists_eq_left']

end Parts

/-- An image is pulled only when it is missing exactly if its reference has a digest, or a tag that is
neither empty nor the latest, and always otherwise. -/
theorem inferredPolicy_text (parts : Parts) :
    (inferredPolicy parts.text = .ifNotPresent ↔ parts.IsPinned) ∧
      (inferredPolicy parts.text = .always ↔ ¬ parts.IsPinned) := by
  rw [← parts.isPinned_text, inferredPolicy]
  cases isPinned parts.text <;> decide

/-- An image of a registry with a port. -/
def portedImage : Parts where
  directories := ["localhost:5000"]
  name := "img"
  tag := none
  digest := none
  directories_plain := by simp
  name_plain := by simp [IsPlain]
  tag_plain := by simp

/-- The port is not taken for a tag. -/
theorem portedImage_always :
    portedImage.text = "localhost:5000/img" ∧ inferredPolicy portedImage.text = .always := by
  refine ⟨by decide, (inferredPolicy_text portedImage).2.2 ?_⟩
  rintro (digest | ⟨tag, tagged, _⟩)
  · cases digest
  · cases tagged

end Converge.ImageReference
