/-!
# Dictionaries of texts

Labels, annotations, selectors and resource lists are finite maps from texts to texts. A `Dict`
holds its entries in ascending order of their keys, each key once, so two dictionaries with the
same entries are equal. `get?` is the view of a dictionary: `mem_entries_iff` says what it finds,
`get?_insert` what inserting does to it, and `isSubsetOf_iff` what inclusion means for it.
-/

namespace Converge

/-- A finite map from texts to texts: its entries in ascending order of their keys. -/
structure Dict where
  entries : List (String × String)
  ascending : entries.Pairwise fun a b => a.1 < b.1
  deriving DecidableEq

namespace Dict

/-- The dictionary without entries. -/
def empty : Dict := ⟨[], .nil⟩

/-- Entries in ascending order with one more entry, in place of one with its key. -/
def insertEntry (key value : String) : List (String × String) → List (String × String)
  | [] => [(key, value)]
  | (other, old) :: rest =>
    if key < other then (key, value) :: (other, old) :: rest
    else if key = other then (key, value) :: rest
    else (other, old) :: insertEntry key value rest

/-- The keys after an insertion are the given one and those from before. -/
theorem fst_of_mem_insertEntry {key value : String} {entries : List (String × String)}
    {entry : String × String} (inside : entry ∈ insertEntry key value entries) :
    entry.1 = key ∨ entry ∈ entries := by
  induction entries with
  | nil => simp only [insertEntry, List.mem_singleton] at inside; simp [inside]
  | cons head rest ih =>
    obtain ⟨other, old⟩ := head
    simp only [insertEntry] at inside
    split at inside
    · rcases List.mem_cons.1 inside with rfl | inside
      · exact .inl rfl
      · exact .inr inside
    · split at inside
      · rcases List.mem_cons.1 inside with rfl | inside
        · exact .inl rfl
        · exact .inr (List.mem_cons_of_mem _ inside)
      · rcases List.mem_cons.1 inside with rfl | inside
        · exact .inr (List.mem_cons_self ..)
        · exact (ih inside).imp_right (List.mem_cons_of_mem _)

/-- Of two different texts that are not in ascending order, the second comes first. -/
theorem lt_of_not_lt_of_ne {a b : String} (later : ¬ a < b) (differ : a ≠ b) : b < a := by
  rcases Decidable.em (b < a) with less | less
  · exact less
  · exact absurd (String.le_antisymm (String.not_lt.1 less) (String.not_lt.1 later)) differ

/-- Insertion keeps the ascending order. -/
theorem insertEntry_ascending (key value : String) {entries : List (String × String)}
    (ascending : entries.Pairwise fun a b => a.1 < b.1) :
    (insertEntry key value entries).Pairwise fun a b => a.1 < b.1 := by
  induction entries with
  | nil => simp [insertEntry]
  | cons head rest ih =>
    obtain ⟨other, old⟩ := head
    obtain ⟨below, sorted⟩ := List.pairwise_cons.1 ascending
    simp only [insertEntry]
    split
    · next less =>
      refine List.pairwise_cons.2 ⟨fun entry inside => ?_, ascending⟩
      rcases List.mem_cons.1 inside with rfl | inside
      · exact less
      · exact String.lt_trans less (below entry inside)
    · next later =>
      split
      · next same =>
        subst same
        exact List.pairwise_cons.2 ⟨fun entry inside => below entry inside, sorted⟩
      · next differ =>
        refine List.pairwise_cons.2 ⟨fun entry inside => ?_, ih sorted⟩
        rcases fst_of_mem_insertEntry inside with same | inside
        · rw [same]; exact lt_of_not_lt_of_ne later differ
        · exact below entry inside

/-- A dictionary with one more entry, in place of one with its key. -/
def insert (dict : Dict) (key value : String) : Dict :=
  ⟨insertEntry key value dict.entries, insertEntry_ascending key value dict.ascending⟩

/-- The dictionary of some entries, the last entry of a key winning. -/
def ofList (entries : List (String × String)) : Dict :=
  entries.foldl (fun dict entry => dict.insert entry.1 entry.2) empty

/-- The value of a key. -/
def get? (dict : Dict) (key : String) : Option String :=
  (dict.entries.find? fun entry => entry.1 == key).map (·.2)

/-- Whether a dictionary has no entries. -/
def isEmpty (dict : Dict) : Bool := dict.entries.isEmpty

/-- The number of entries. -/
def size (dict : Dict) : Nat := dict.entries.length

/-- The keys in ascending order. -/
def keys (dict : Dict) : List String := dict.entries.map (·.1)

/-- Whether every entry of the first dictionary is an entry of the second. -/
def isSubsetOf (small large : Dict) : Bool :=
  small.entries.all fun entry => large.get? entry.1 == some entry.2

/-- Two dictionaries with the same entries are equal. -/
@[ext]
theorem ext {a b : Dict} (same : a.entries = b.entries) : a = b := by
  cases a; cases b; cases same; rfl

/-- The entries are exactly what the view finds. -/
theorem mem_entries_iff {dict : Dict} {key value : String} :
    (key, value) ∈ dict.entries ↔ dict.get? key = some value := by
  obtain ⟨entries, ascending⟩ := dict
  simp only [get?]
  induction entries with
  | nil => simp
  | cons head rest ih =>
    obtain ⟨other, old⟩ := head
    obtain ⟨below, sorted⟩ := List.pairwise_cons.1 ascending
    by_cases same : other = key
    · subst same
      have absent : (other, value) ∉ rest := fun inside =>
        String.lt_irrefl other (below (other, value) inside)
      simp [absent, eq_comm]
    · simp [same, Ne.symm same, ih sorted]

/-- The keys are those under which the view finds something. -/
theorem mem_keys_iff {dict : Dict} {key : String} :
    key ∈ dict.keys ↔ ∃ value, dict.get? key = some value := by
  simp only [keys, List.mem_map, Prod.exists, exists_and_right, exists_eq_right, mem_entries_iff]

/-- A dictionary has no key twice. -/
theorem nodup_keys (dict : Dict) : dict.keys.Nodup := by
  refine (List.pairwise_map.2 dict.ascending).imp ?_
  rintro key _ less rfl
  exact String.lt_irrefl key less

theorem length_keys (dict : Dict) : dict.keys.length = dict.size := List.length_map _

/-- After an insertion the view finds the new value under its key and the old ones elsewhere. -/
theorem get?_insert (dict : Dict) (inserted value key : String) :
    (dict.insert inserted value).get? key =
      if key = inserted then some value else dict.get? key := by
  obtain ⟨entries, ascending⟩ := dict
  simp only [get?, insert]
  clear ascending
  induction entries with
  | nil =>
    by_cases same : inserted = key
    · simp [insertEntry, same]
    · simp [insertEntry, same, Ne.symm same]
  | cons head rest ih =>
    obtain ⟨other, old⟩ := head
    simp only [insertEntry]
    by_cases same : inserted = key
    · subst same
      split
      · simp
      · split
        · simp
        · next differ => simp_all [Ne.symm differ]
    · split
      · simp [same, Ne.symm same]
      · split
        · next equal => subst equal; simp [same, Ne.symm same]
        · by_cases here : other = key
          · simp [here, Ne.symm same]
          · simpa [here] using ih

/-- Inclusion means that the larger dictionary finds whatever the smaller one finds. -/
theorem isSubsetOf_iff {small large : Dict} :
    small.isSubsetOf large = true ↔
      ∀ key value, small.get? key = some value → large.get? key = some value := by
  simp only [isSubsetOf, List.all_eq_true, beq_iff_eq]
  constructor
  · intro included key value found
    exact included (key, value) (mem_entries_iff.2 found)
  · rintro included ⟨key, value⟩ inside
    exact included key value (mem_entries_iff.1 inside)

end Dict

end Converge
