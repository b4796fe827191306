import Converge.Dict
import Converge.Proofs.Facet.MemorySizes

/-!
# The flags as a table

The text of the flags is that of a table from their names to their values. The table is filled for an
instance without a memory limit, the sizes of a limit replace what is in it, and the text has the entries
in the order of their names (`JavaFlags.render_eq_ofTable`).

A table can be read from its text if nothing in it has blanks and no name begins another one
(`JavaFlags.Legible`): its entries are then the words of the text, the words are in ascending order too,
and each name is found in one word only. This gives the form of the text, which is the same for every
limit: `JavaFlags.formed_render`.
-/

namespace Converge

namespace Text

/-- Where no text begins another, what is added to them does not change their order. -/
theorem append_lt_append {a b : List Char} (less : a < b) (apart : ¬ a <+: b) (x y : List Char) :
    a ++ x < b ++ y := by
  induction a generalizing b with
  | nil => exact absurd List.nil_prefix apart
  | cons c a ih =>
    cases b with
    | nil => exact absurd less (List.not_lt_nil _)
    | cons d b =>
      rw [List.cons_append, List.cons_append, List.cons_lt_cons_iff]
      rcases List.cons_lt_cons_iff.1 less with smaller | ⟨rfl, smaller⟩
      · exact .inl smaller
      · refine .inr ⟨rfl, ih smaller fun opens => apart ?_⟩
        exact List.cons_prefix_cons.2 ⟨rfl, opens⟩

end Text

/-- Entries of a dictionary with the same key are the same. -/
theorem Dict.eq_of_fst_eq {dict : Dict} {entry other : String × String} (listed : entry ∈ dict.entries)
    (also_listed : other ∈ dict.entries) (same : entry.1 = other.1) : entry = other := by
  have found := mem_entries_iff.1 listed
  rw [same, mem_entries_iff.1 also_listed] at found
  exact Prod.ext same (Option.some.inj found).symm

/-- No entry of a dictionary stands in it twice. -/
theorem Dict.nodup_entries (dict : Dict) : dict.entries.Nodup := .of_map _ dict.nodup_keys

/-- A function that finds something in one item only finds it once. -/
theorem filterMap_eq_singleton {α β : Type} {f : α → Option β} {items : List α} {item : α} {found : β}
    (distinct : items.Nodup) (listed : item ∈ items) (finds : f item = some found)
    (silent : ∀ other ∈ items, other ≠ item → f other = none) : items.filterMap f = [found] := by
  obtain ⟨before, after, rfl⟩ := List.append_of_mem listed
  obtain ⟨absent, _⟩ := List.nodup_cons.1 (List.nodup_middle.1 distinct)
  have others (side : List α) (within : side ⊆ before ++ after) : side.filterMap f = [] := by
    refine List.filterMap_eq_nil_iff.2 fun other inside => ?_
    have present := within inside
    refine silent other ?_ fun same => absent (same ▸ present)
    exact List.mem_append.2 ((List.mem_append.1 present).imp_right (List.mem_cons_of_mem _))
  rw [List.filterMap_append, List.filterMap_cons_some finds,
    others before (List.subset_append_left _ _), others after (List.subset_append_right _ _)]
  rfl

namespace JavaFlags

/-! ## The text of a table -/

/-- The text that has the entries of a table as its words. -/
def ofTable (table : Dict) : String :=
  " ".intercalate (table.entries.map fun entry => entry.1 ++ entry.2)

/-- The words of a text. -/
def words (text : String) : List (List Char) := text.toList.splitOn ' '

/-- What stands behind a flag in the words of a text that begin with it. -/
def valuesOf (flag text : String) : List (List Char) :=
  (text.toList.splitOn ' ').filterMap (Text.dropOpening? flag.toList)

/-- A table that can be read from its text: there is something in it, nothing in it has blanks, and no
name begins another one. -/
structure Legible (table : Dict) : Prop where
  filled : table.entries ≠ []
  solid : ∀ entry ∈ table.entries, ' ' ∉ (entry.1 ++ entry.2).toList
  apart : ∀ name ∈ table.keys, ∀ other ∈ table.keys, name.toList <+: other.toList → name = other

namespace Legible

variable {table : Dict} (legible : Legible table)

include legible

theorem words_eq :
    words (ofTable table) = table.entries.map fun entry => (entry.1 ++ entry.2).toList := by
  rw [words, ofTable, String.toList_intercalate, List.map_map]
  refine List.splitOn_intercalate ' ' ?_ (mt List.map_eq_nil_iff.1 legible.filled)
  intro word inside
  obtain ⟨entry, listed, rfl⟩ := List.mem_map.1 inside
  exact legible.solid entry listed

theorem eq_of_prefix {entry other : String × String} (listed : entry ∈ table.entries)
    (also_listed : other ∈ table.entries) (opens : entry.1.toList <+: other.1.toList) :
    entry = other := by
  refine Dict.eq_of_fst_eq listed also_listed ?_
  exact legible.apart _ (List.mem_map_of_mem listed) _ (List.mem_map_of_mem also_listed) opens

/-- The words are in ascending order, as the names are. -/
theorem ascending : (words (ofTable table)).Pairwise (· < ·) := by
  rw [legible.words_eq, List.pairwise_map]
  refine table.ascending.imp_of_mem ?_
  intro entry other listed also_listed less
  rw [String.toList_append, String.toList_append]
  refine Text.append_lt_append (String.lt_iff.1 less) (fun opens => ?_) _ _
  rw [legible.eq_of_prefix listed also_listed opens] at less
  exact String.lt_irrefl _ less

/-- Each name is found in the text once, with its value. -/
theorem valuesOf_eq {name value : String} (listed : (name, value) ∈ table.entries) :
    valuesOf name (ofTable table) = [value.toList] := by
  have silent : ∀ entry ∈ table.entries, entry ≠ (name, value) →
      Text.dropOpening? name.toList (entry.1 ++ entry.2).toList = none := by
    intro entry also_listed differs
    refine Option.eq_none_iff_forall_ne_some.2 fun rest found => ?_
    have opens : name.toList <+: entry.1.toList ++ entry.2.toList := by
      rw [← String.toList_append, Text.dropOpening?_eq_some_iff.1 found]
      exact List.prefix_append _ _
    rcases List.prefix_or_prefix_of_prefix opens (List.prefix_append _ _) with shorter | longer
    · exact differs (legible.eq_of_prefix listed also_listed shorter).symm
    · exact differs (legible.eq_of_prefix also_listed listed longer)
  have found : Text.dropOpening? name.toList (name ++ value).toList = some value.toList :=
    Text.dropOpening?_eq_some_iff.2 String.toList_append
  rw [valuesOf, ← words, legible.words_eq, List.filterMap_map]
  exact filterMap_eq_singleton table.nodup_entries listed found silent

end Legible

/-! ## The table of the flags -/

/-- The flags with their values: those without a limit, and in their place the sizes for a limit that has
any. -/
def table (limit : Option String) (randomPassword : Bool) : Dict :=
  let standard : Dict := .ofList
    [("-Xms", MemorySizes.standard.heap), ("-Xmx", MemorySizes.standard.heap),
      ("-XX:MaxDirectMemorySize=", MemorySizes.standard.direct),
      ("-Djava.util.prefs.userRoot=", "/nexus-data/javaprefs"),
      ("-Dnexus.security.randompassword=", toString randomPassword)]
  match (limit.bind Quantity.parse?).bind MemorySizes.ofLimit? with
  | some sizes =>
    ((standard.insert "-Xms" sizes.heap).insert "-Xmx" sizes.heap).insert
      "-XX:MaxDirectMemorySize=" sizes.direct
  | none => standard

theorem entries_table (limit : Option String) (randomPassword : Bool) :
    (table limit randomPassword).entries =
      [("-Djava.util.prefs.userRoot=", "/nexus-data/javaprefs"),
        ("-Dnexus.security.randompassword=", toString randomPassword),
        ("-XX:MaxDirectMemorySize=", (MemorySizes.ofLimit limit).direct),
        ("-Xms", (MemorySizes.ofLimit limit).heap), ("-Xmx", (MemorySizes.ofLimit limit).heap)] := by
  unfold table MemorySizes.ofLimit
  cases (limit.bind Quantity.parse?).bind MemorySizes.ofLimit? <;>
    simp only [Dict.ofList, List.foldl_cons, List.foldl_nil, Dict.insert, Dict.insertEntry, Dict.empty,
      String.reduceLT, String.reduceEq, reduceIte, Option.getD_none, Option.getD_some]

/-- The text of the flags is that of their table. -/
theorem render_eq_ofTable (limit : Option String) (randomPassword : Bool) :
    render limit randomPassword = ofTable (table limit randomPassword) := by
  rw [render, ofTable, entries_table]
  rfl

theorem legible_table (limit : Option String) (randomPassword : Bool) :
    Legible (table limit randomPassword) where
  filled := by
    rw [entries_table]
    exact List.cons_ne_nil _ _
  solid := by
    obtain ⟨heap, direct⟩ := solid_ofLimit limit
    have choice : ' ' ∉ (toString randomPassword).toList := by cases randomPassword <;> decide
    rw [entries_table]
    simp [heap, direct, choice]
  apart := by
    rw [Dict.keys, entries_table]
    simp only [List.map_cons, List.map_nil]
    decide +kernel

/-- So each flag is found in the text once, with its value. -/
theorem values_render (limit : Option String) (randomPassword : Bool) :
    ∀ entry ∈ (table limit randomPassword).entries,
      valuesOf entry.1 (render limit randomPassword) = [entry.2.toList] := by
  rw [render_eq_ofTable]
  exact fun _ listed => (legible_table limit randomPassword).valuesOf_eq listed

/-! ## The form of the text -/

/-- The form that the text of the flags has, whatever the limit is: five words in ascending order, one
for each flag, and the same size for the heap at first and at most. -/
structure Formed (text : String) (randomPassword : Bool) : Prop where
  five : (words text).length = 5
  ascending : (words text).Pairwise (· < ·)
  preferences :
    valuesOf "-Djava.util.prefs.userRoot=" text = ["/nexus-data/javaprefs".toList]
  password :
    valuesOf "-Dnexus.security.randompassword=" text =
      [if randomPassword then "true".toList else "false".toList]
  direct_memory : ∃ size, valuesOf "-XX:MaxDirectMemorySize=" text = [size]
  heap : ∃ size, valuesOf "-Xms" text = [size] ∧ valuesOf "-Xmx" text = [size]

theorem formed_render (limit : Option String) (randomPassword : Bool) :
    Formed (render limit randomPassword) randomPassword := by
  have legible := legible_table limit randomPassword
  have values := values_render limit randomPassword
  simp only [entries_table, List.forall_mem_cons] at values
  obtain ⟨preferences, password, direct, initial, greatest, _⟩ := values
  refine
    { five := ?_, ascending := ?_, preferences, password := ?_, direct_memory := ⟨_, direct⟩,
      heap := ⟨_, initial, greatest⟩ }
  · rw [render_eq_ofTable, legible.words_eq, List.length_map, entries_table]
    rfl
  · rw [render_eq_ofTable]
    exact legible.ascending
  · rw [password]
    cases randomPassword <;> rfl

end JavaFlags

end Converge
