import Converge.Plan.Table
import Mathlib.Data.List.Forall2
import Mathlib.Data.Set.Function
import Mathlib.Order.Bounds.Basic
import Mathlib.Order.MinMax

/-!
# Reading tables of verdicts

A line of a table shows an action, a kind and, from some column on, a name (`Verdict.Shows`). Neither
the word for an action nor the name of a kind has a blank, so no line shows two verdicts with their
names at the same column (`Verdict.leftUnique_shows`), although names may have blanks. The column is
ten characters behind the width of the kinds, which differs from table to table; the head line tells
it, as it ends with the title that stands there.

So a table can be read line by line, provided that no name has a line feed:
`Verdict.table_read_back`.
-/

namespace Converge

namespace Text

theorem toList_padRight (width : Nat) (text : String) :
    (padRight width text).toList = text.toList ++ List.replicate (width - text.length) ' ' := by
  rw [padRight, String.toList_append, String.toList_ofList]

/-- What stands in front of the first blank is told by the text. -/
theorem append_blank_inj {word other rest rest' : List Char} (solid : ' ' ∉ word)
    (solid' : ' ' ∉ other) (same : word ++ ' ' :: rest = other ++ ' ' :: rest') :
    word = other ∧ rest = rest' := by
  have cut := splitFirst?_append solid rest
  rw [same, splitFirst?_append solid'] at cut
  exact ⟨congrArg Prod.fst (Option.some.inj cut).symm, congrArg Prod.snd (Option.some.inj cut).symm⟩

/-- Blanks in front of a word can be passed. -/
theorem dropWhile_blanks {word : List Char} (solid : ' ' ∉ word) (filled : word ≠ []) (gap : Nat)
    (rest : List Char) :
    (List.replicate gap ' ' ++ (word ++ rest)).dropWhile (· == ' ') = word ++ rest := by
  obtain ⟨first, others, rfl⟩ := List.exists_cons_of_ne_nil filled
  have other : (first == ' ') = false := by
    refine beq_false_of_ne ?_
    rintro rfl
    exact solid List.mem_cons_self
  rw [List.dropWhile_append_of_pos (by simp), List.cons_append,
    List.dropWhile_cons_of_neg (by simp [other])]

/-- A text of lines that end with line feeds is split into them, and nothing stands behind the last
one. -/
theorem splitOn_flatMap_newline {lines : List (List Char)} (whole : ∀ line ∈ lines, '\n' ∉ line) :
    (lines.flatMap fun line => line ++ ['\n']).splitOn '\n' = lines ++ [[]] := by
  induction lines with
  | nil => rfl
  | cons line rest ih =>
    obtain ⟨here, behind⟩ := List.forall_mem_cons.1 whole
    rw [List.flatMap_cons, List.append_assoc, List.singleton_append,
      List.splitOn_append_cons_self_of_not_mem here, ih behind, List.cons_append]

end Text

namespace Action

/-- The word for an action has no blank and no line feed, and fits into its column. -/
theorem word_fits (action : Action) :
    ' ' ∉ action.word.toList ∧ '\n' ∉ action.word.toList ∧ action.word.length ≤ 8 := by
  cases action <;> decide

theorem word_inj {action other : Action} : action.word = other.word ↔ action = other := by
  cases action <;> cases other <;> decide

end Action

namespace Kind

/-- The name of a kind has no blank and no line feed, and is not empty. -/
theorem name_solid (kind : Kind) :
    ' ' ∉ kind.name.toList ∧ '\n' ∉ kind.name.toList ∧ kind.name.toList ≠ [] := by
  cases kind <;> decide

theorem name_inj {kind other : Kind} : kind.name = other.name ↔ kind = other := by
  cases kind <;> cases other <;> decide

end Kind

namespace Verdict

/-! ## Lines -/

/-- A line shows an action and a kind, blanks behind each of them, and from a column on a name. -/
def Shows (column : Nat) (action kind name : String) (line : List Char) : Prop :=
  ∃ front gap gap',
    line = front ++ name.toList ∧ front.length = column ∧
      front = action.toList ++ List.replicate (gap + 1) ' ' ++
        (kind.toList ++ List.replicate (gap' + 1) ' ')

/-- No line shows two verdicts with their names at the same column. -/
theorem leftUnique_shows (column : Nat) :
    Relator.LeftUnique fun (verdict : Verdict) (line : List Char) =>
      Shows column verdict.action.word verdict.kind.name verdict.name line := by
  rintro ⟨kind, name, action⟩ ⟨kind', name', action'⟩ line
    ⟨front, gap, gap', rfl, sized, cells⟩ ⟨front', gap₁, gap₁', same, sized', cells'⟩
  obtain ⟨fronts, names⟩ := List.append_inj same (sized.trans sized'.symm)
  obtain ⟨action_solid, _⟩ := action.word_fits
  obtain ⟨action_solid', _⟩ := action'.word_fits
  obtain ⟨kind_solid, _, kind_filled⟩ := kind.name_solid
  obtain ⟨kind_solid', _, kind_filled'⟩ := kind'.name_solid
  rw [cells, cells'] at fronts
  simp only [List.replicate_succ, List.append_assoc, List.cons_append] at fronts
  obtain ⟨actions, behind⟩ := Text.append_blank_inj action_solid action_solid' fronts
  have kinds := congrArg (List.dropWhile (· == ' ')) behind
  rw [Text.dropWhile_blanks kind_solid kind_filled,
    Text.dropWhile_blanks kind_solid' kind_filled'] at kinds
  obtain ⟨kinds, _⟩ := Text.append_blank_inj kind_solid kind_solid' kinds
  cases Action.word_inj.1 (String.toList_inj.1 actions)
  cases Kind.name_inj.1 (String.toList_inj.1 kinds)
  cases String.toList_inj.1 names
  rfl

/-- The characters of a line of a table, without its end. -/
def line (width : Nat) (action kind name : String) : List Char :=
  (Text.padRight 8 action ++ " " ++ Text.padRight width kind ++ " " ++ name).toList

theorem toList_row (width : Nat) (action kind name : String) :
    (row width action kind name).toList = line width action kind name ++ ['\n'] := by
  rw [row, String.toList_append]
  rfl

/-- A line shows what it is made of, if the columns are wide enough for it. -/
theorem shows_line {width : Nat} {action kind : String} (action_fits : action.length ≤ 8)
    (kind_fits : kind.length ≤ width) (name : String) :
    Shows (10 + width) action kind name (line width action kind name) := by
  refine ⟨_, 8 - action.length, width - kind.length, ?_, ?_, rfl⟩
  · simp only [line, String.toList_append, Text.toList_padRight, List.replicate_succ',
      List.append_assoc]
    rfl
  · simp only [List.length_append, List.length_replicate, String.length_toList]
    omega

/-- A line ends nowhere before its end, if nothing that it shows does. -/
theorem newline_notMem_line {width : Nat} {action kind name : String}
    (action_whole : '\n' ∉ action.toList) (kind_whole : '\n' ∉ kind.toList)
    (name_whole : '\n' ∉ name.toList) : '\n' ∉ line width action kind name := by
  have blanks (count : Nat) : '\n' ∉ List.replicate count ' ' := fun inside =>
    absurd (List.eq_of_mem_replicate inside) (by decide)
  have blank : '\n' ∉ " ".toList := by decide
  simp only [line, String.toList_append, Text.toList_padRight, List.mem_append, not_or]
  exact ⟨⟨⟨⟨⟨action_whole, blanks _⟩, blank⟩, kind_whole, blanks _⟩, blank⟩, name_whole⟩

/-! ## Tables -/

private theorem isGreatest_foldl_max (widths : List Nat) (start : Nat) :
    IsGreatest {width | width = start ∨ width ∈ widths} (widths.foldl max start) := by
  induction widths generalizing start with
  | nil => exact ⟨.inl rfl, fun width member => member.elim le_of_eq fun inside => nomatch inside⟩
  | cons first rest ih =>
    obtain ⟨member, bound⟩ := ih (max start first)
    refine ⟨?_, ?_⟩
    · rcases member with same | inside
      · rw [List.foldl_cons, same]
        rcases max_choice start first with kept | larger
        · exact .inl kept
        · rw [larger]
          exact .inr List.mem_cons_self
      · exact .inr (List.mem_cons_of_mem _ inside)
    · rintro width (rfl | inside)
      · exact (le_max_left _ _).trans (bound (.inl rfl))
      · rcases List.mem_cons.1 inside with rfl | inside
        · exact (le_max_right _ _).trans (bound (.inl rfl))
        · exact bound (.inr inside)

/-- The column of kinds is as wide as its widest cell. -/
theorem isGreatest_kindWidth (verdicts : List Verdict) :
    IsGreatest {width | width = "KIND".length ∨
      ∃ verdict ∈ verdicts, verdict.kind.name.length = width} (kindWidth verdicts) := by
  have greatest := isGreatest_foldl_max
    (verdicts.map fun verdict => verdict.kind.name.length) "KIND".length
  simpa only [kindWidth, List.mem_map] using greatest

/-- The lines of a table. -/
theorem splitOn_table {verdicts : List Verdict}
    (whole : ∀ verdict ∈ verdicts, '\n' ∉ verdict.name.toList) :
    (table verdicts).toList.splitOn '\n' =
      line (kindWidth verdicts) "ACTION" "KIND" "NAME" ::
        (verdicts.map fun verdict =>
          line (kindWidth verdicts) verdict.action.word verdict.kind.name verdict.name) ++ [[]] := by
  have text : (table verdicts).toList =
      (line (kindWidth verdicts) "ACTION" "KIND" "NAME" ::
        verdicts.map fun verdict =>
          line (kindWidth verdicts) verdict.action.word verdict.kind.name verdict.name).flatMap
        fun line => line ++ ['\n'] := by
    simp only [table, String.toList_append, toList_row, String.toList_join, List.flatMap_map,
      List.flatMap_cons]
  rw [text]
  refine Text.splitOn_flatMap_newline (List.forall_mem_cons.2 ⟨?_, ?_⟩)
  · exact newline_notMem_line (by decide) (by decide) (by decide)
  · refine List.forall_mem_map.2 fun verdict inside => ?_
    exact newline_notMem_line verdict.action.word_fits.2.1 verdict.kind.name_solid.2.1
      (whole verdict inside)

/-- The head line shows the titles, and each line behind it a verdict, the names at one column. -/
theorem shows_lines (verdicts : List Verdict) :
    Shows (10 + kindWidth verdicts) "ACTION" "KIND" "NAME"
        (line (kindWidth verdicts) "ACTION" "KIND" "NAME") ∧
      List.Forall₂
        (fun verdict line => Shows (10 + kindWidth verdicts) verdict.action.word verdict.kind.name
          verdict.name line) verdicts
        (verdicts.map fun verdict =>
          line (kindWidth verdicts) verdict.action.word verdict.kind.name verdict.name) := by
  obtain ⟨_, widest⟩ := isGreatest_kindWidth verdicts
  refine ⟨shows_line (by decide) (widest (.inl rfl)) _, ?_⟩
  rw [List.forall₂_map_right_iff, List.forall₂_same]
  intro verdict inside
  exact shows_line verdict.action.word_fits.2.2 (widest (.inr ⟨verdict, inside, rfl⟩)) _

/-- The column of names is told by the head line. -/
theorem column_eq_of_shows {column column' : Nat} {action kind action' kind' title : String}
    {line : List Char} (shows : Shows column action kind title line)
    (shows' : Shows column' action' kind' title line) : column = column' := by
  obtain ⟨front, _, _, rfl, rfl, _⟩ := shows
  obtain ⟨front', _, _, same, rfl, _⟩ := shows'
  exact congrArg List.length (List.append_cancel_right same)

/-- The table of verdicts whose names have no line feed is a head line and one line for each verdict,
in their order, the names standing ten characters behind the width of the widest kind. Different lists
of such verdicts have different tables. -/
theorem table_read_back :
    (∀ verdicts : List Verdict, (∀ verdict ∈ verdicts, '\n' ∉ verdict.name.toList) →
      ∃ width head rows,
        IsGreatest {width | width = "KIND".length ∨
          ∃ verdict ∈ verdicts, verdict.kind.name.length = width} width ∧
        (table verdicts).toList.splitOn '\n' = head :: rows ++ [[]] ∧
        Shows (10 + width) "ACTION" "KIND" "NAME" head ∧
        List.Forall₂ (fun verdict row =>
          Shows (10 + width) verdict.action.word verdict.kind.name verdict.name row) verdicts rows) ∧
      Set.InjOn table {verdicts | ∀ verdict ∈ verdicts, '\n' ∉ verdict.name.toList} := by
  refine ⟨fun verdicts whole => ?_, fun verdicts whole others whole' same => ?_⟩
  · obtain ⟨head, rows⟩ := shows_lines verdicts
    exact ⟨kindWidth verdicts, _, _, isGreatest_kindWidth verdicts, splitOn_table whole, head, rows⟩
  · have lines := splitOn_table whole
    rw [same, splitOn_table whole', List.cons_append, List.cons_append, List.cons.injEq] at lines
    obtain ⟨heads, rows⟩ := lines
    obtain ⟨head, shown⟩ := shows_lines verdicts
    obtain ⟨head', shown'⟩ := shows_lines others
    rw [heads] at head'
    rw [List.append_cancel_right rows, column_eq_of_shows head' head] at shown'
    exact List.left_unique_forall₂' (leftUnique_shows _) shown shown'

/-- Verdicts on objects of two kinds, one with blanks in its name. -/
def blankedVerdicts : List Verdict :=
  [⟨.serviceAccount, "nexus3", .keep⟩, ⟨.route, "Route  nexus3", .create⟩]

/-- Their table has two lines below its head, and the other way round it is another table. -/
theorem blankedVerdicts_read_back :
    (∃ head row row', (table blankedVerdicts).toList.splitOn '\n' = [head, row, row', []]) ∧
      table blankedVerdicts ≠ table blankedVerdicts.reverse := by
  have whole : ∀ verdict ∈ blankedVerdicts, '\n' ∉ verdict.name.toList := by
    simp only [blankedVerdicts, List.forall_mem_cons]
    exact ⟨by decide, by decide, by simp⟩
  obtain ⟨reads, injective⟩ := table_read_back
  obtain ⟨_, head, rows, _, split, _, shown⟩ := reads blankedVerdicts whole
  refine ⟨?_, fun same => ?_⟩
  · obtain ⟨row, row', rfl⟩ := List.length_eq_two.1 shown.length_eq.symm
    exact ⟨head, row, row', split⟩
  · have turned : ∀ verdict ∈ blankedVerdicts.reverse, '\n' ∉ verdict.name.toList :=
      fun verdict inside => whole verdict (List.mem_reverse.1 inside)
    have reversed : blankedVerdicts ≠ blankedVerdicts.reverse := by decide
    exact reversed (injective whole turned same)

end Verdict

end Converge
