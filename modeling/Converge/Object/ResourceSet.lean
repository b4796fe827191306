import Converge.Object.Resource

/-!
# Sets of objects

Objects grouped by their kinds. A group holds the objects of one kind in the order in which they
were added, and there is no group without objects. `ofKind` is the view of a set, the objects of a
kind: `ofKind_insert` says what adding an object does to it, and `mem_groups_iff` that the groups
hold what it shows.
-/

namespace Converge

/-- Groups are in ascending order of their kinds, there is something in each of them, and it is of
the kind of the group. -/
structure Grouped (groups : List (Kind × List Resource)) : Prop where
  ascending : groups.Pairwise fun a b => a.1.rank < b.1.rank
  filled : ∀ group ∈ groups, group.2 ≠ []
  alike : ∀ group ∈ groups, ∀ object ∈ group.2, object.kind = group.1

/-- Objects grouped by their kinds. -/
structure ResourceSet where
  groups : List (Kind × List Resource)
  grouped : Grouped groups
  deriving DecidableEq

namespace Grouped

/-- Groups with one more object, which is the last one of its kind. -/
def insert (object : Resource) : List (Kind × List Resource) → List (Kind × List Resource)
  | [] => [(object.kind, [object])]
  | (kind, objects) :: rest =>
    if object.kind.rank < kind.rank then (object.kind, [object]) :: (kind, objects) :: rest
    else if object.kind = kind then (kind, objects ++ [object]) :: rest
    else (kind, objects) :: insert object rest

/-- After an object is added, a group is one from before, with or without the object. -/
theorem of_mem_insert {object : Resource} {groups : List (Kind × List Resource)}
    {group : Kind × List Resource} (inside : group ∈ insert object groups) :
    group ∈ groups ∨ ∃ before, group = (object.kind, before ++ [object]) ∧
      (before = [] ∨ (object.kind, before) ∈ groups) := by
  induction groups with
  | nil => exact .inr ⟨[], List.mem_singleton.1 inside, .inl rfl⟩
  | cons head rest ih =>
    obtain ⟨kind, objects⟩ := head
    simp only [insert] at inside
    split at inside
    · rcases List.mem_cons.1 inside with rfl | inside
      · exact .inr ⟨[], rfl, .inl rfl⟩
      · exact .inl inside
    · split at inside
      · next same =>
        subst same
        rcases List.mem_cons.1 inside with rfl | inside
        · exact .inr ⟨objects, rfl, .inr List.mem_cons_self⟩
        · exact .inl (List.mem_cons_of_mem _ inside)
      · rcases List.mem_cons.1 inside with rfl | inside
        · exact .inl List.mem_cons_self
        · rcases ih inside with here | ⟨before, made, held⟩
          · exact .inl (List.mem_cons_of_mem _ here)
          · exact .inr ⟨before, made, held.imp_right (List.mem_cons_of_mem _)⟩

variable {groups : List (Kind × List Resource)}

theorem insert_ascending (object : Resource)
    (ascending : groups.Pairwise fun a b => a.1.rank < b.1.rank) :
    (insert object groups).Pairwise fun a b => a.1.rank < b.1.rank := by
  induction groups with
  | nil => simp [insert]
  | cons head rest ih =>
    obtain ⟨kind, objects⟩ := head
    obtain ⟨below, sorted⟩ := List.pairwise_cons.1 ascending
    simp only [insert]
    split
    · next less =>
      refine List.pairwise_cons.2 ⟨fun group inside => ?_, ascending⟩
      rcases List.mem_cons.1 inside with rfl | inside
      · exact less
      · exact Nat.lt_trans less (below group inside)
    · next later =>
      split
      · exact List.pairwise_cons.2 ⟨below, sorted⟩
      · next differ =>
        refine List.pairwise_cons.2 ⟨fun group inside => ?_, ih sorted⟩
        rcases of_mem_insert inside with here | ⟨before, rfl, _⟩
        · exact below group here
        · exact Nat.lt_of_le_of_ne (Nat.not_lt.1 later) fun same => differ (Kind.rank_inj.1 same.symm)

/-- Adding an object keeps groups in order. -/
theorem insert_grouped (object : Resource) (grouped : Grouped groups) :
    Grouped (insert object groups) where
  ascending := insert_ascending object grouped.ascending
  filled group inside := by
    rcases of_mem_insert inside with here | ⟨before, rfl, _⟩
    · exact grouped.filled group here
    · simp
  alike group inside other among := by
    rcases of_mem_insert inside with here | ⟨before, rfl, held⟩
    · exact grouped.alike group here other among
    · rcases List.mem_append.1 among with earlier | last
      · rcases held with rfl | held
        · cases earlier
        · exact grouped.alike _ held other earlier
      · rw [List.mem_singleton.1 last]

private theorem lookup_cons_of_ne {kind other : Kind} (differ : kind ≠ other)
    (objects : List Resource) :
    ((other, objects) :: groups).lookup kind = groups.lookup kind := by
  rw [List.lookup_cons, beq_false_of_ne differ]

/-- The groups are found by their kinds. -/
theorem mem_iff_lookup (grouped : Grouped groups) {kind : Kind} {objects : List Resource} :
    (kind, objects) ∈ groups ↔ groups.lookup kind = some objects := by
  have ascending := grouped.ascending
  clear grouped
  induction groups with
  | nil => simp
  | cons head rest ih =>
    obtain ⟨other, others⟩ := head
    obtain ⟨below, sorted⟩ := List.pairwise_cons.1 ascending
    by_cases same : kind = other
    · subst same
      have absent : (kind, objects) ∉ rest := fun inside =>
        Nat.lt_irrefl _ (below (kind, objects) inside)
      simp [absent, eq_comm]
    · rw [lookup_cons_of_ne same]
      simp [same, ih sorted]

/-- An object is found behind those of its kind that were there. -/
theorem lookup_insert_self (object : Resource)
    (ascending : groups.Pairwise fun a b => a.1.rank < b.1.rank) :
    (insert object groups).lookup object.kind =
      some ((groups.lookup object.kind).getD [] ++ [object]) := by
  induction groups with
  | nil => simp [insert]
  | cons head rest ih =>
    obtain ⟨kind, objects⟩ := head
    obtain ⟨below, sorted⟩ := List.pairwise_cons.1 ascending
    simp only [insert]
    split
    · next less =>
      have absent : ((kind, objects) :: rest).lookup object.kind = none := by
        refine List.lookup_eq_none_iff.2 fun group inside => bne_iff_ne.2 fun same => ?_
        rw [same] at less
        rcases List.mem_cons.1 inside with rfl | inside
        · exact Nat.lt_irrefl _ less
        · exact Nat.lt_asymm less (below group inside)
      simp [absent]
    · split
      · next same => simp [same]
      · next differ => rw [lookup_cons_of_ne differ, lookup_cons_of_ne differ, ih sorted]

/-- What is found of the other kinds is what was there. -/
theorem lookup_insert_of_ne {object : Resource} {kind : Kind} (differ : kind ≠ object.kind) :
    (insert object groups).lookup kind = groups.lookup kind := by
  induction groups with
  | nil => rw [insert, lookup_cons_of_ne differ]
  | cons head rest ih =>
    obtain ⟨other, objects⟩ := head
    simp only [insert]
    split
    · rw [lookup_cons_of_ne differ]
    · split
      · next same =>
        subst same
        rw [lookup_cons_of_ne differ, lookup_cons_of_ne differ]
      · by_cases here : kind = other
        · simp [here]
        · rw [lookup_cons_of_ne here, lookup_cons_of_ne here, ih]

end Grouped

namespace ResourceSet

/-- The set without objects. -/
def empty : ResourceSet := ⟨[], ⟨.nil, by simp, by simp⟩⟩

/-- A set with one more object, which is the last one of its kind. -/
def insert (set : ResourceSet) (object : Resource) : ResourceSet :=
  ⟨Grouped.insert object set.groups, set.grouped.insert_grouped object⟩

/-- A set with more objects, added one after the other. -/
def extend (set : ResourceSet) (objects : List Resource) : ResourceSet := objects.foldl insert set

/-- The objects of a kind in the order in which they were added. -/
def ofKind (set : ResourceSet) (kind : Kind) : List Resource := (set.groups.lookup kind).getD []

/-- The first object of a kind and a name. -/
def find? (set : ResourceSet) (kind : Kind) (name : String) : Option Resource :=
  (set.ofKind kind).find? fun object => object.name == name

/-- The kinds of which there are objects. -/
def kinds (set : ResourceSet) : List Kind := set.groups.map (·.1)

/-- All objects, kind by kind. -/
def toList (set : ResourceSet) : List Resource := set.groups.flatMap (·.2)

/-- The number of objects. -/
def size (set : ResourceSet) : Nat :=
  set.groups.foldr (fun group others => group.2.length + others) 0

/-- Whether there are no objects. -/
def isEmpty (set : ResourceSet) : Bool := set.size == 0

/-- The JSON form of a set: the objects of each kind under the name of the kind. -/
def encode (set : ResourceSet) : Json :=
  .obj (set.groups.map fun group => (group.1.name, .arr (group.2.map Resource.encode)))

theorem ofKind_empty (kind : Kind) : empty.ofKind kind = [] := rfl

/-- The groups hold what is shown of their kinds, and nothing is shown of the others. -/
theorem mem_groups_iff {set : ResourceSet} {kind : Kind} {objects : List Resource} :
    (kind, objects) ∈ set.groups ↔ set.ofKind kind = objects ∧ objects ≠ [] := by
  rw [set.grouped.mem_iff_lookup, ofKind]
  constructor
  · intro found
    rw [found]
    exact ⟨rfl, set.grouped.filled _ (set.grouped.mem_iff_lookup.2 found)⟩
  · rintro ⟨shown, filled⟩
    cases found : set.groups.lookup kind with
    | none => rw [found] at shown; exact absurd shown.symm filled
    | some objects' => rw [found] at shown; rw [← shown, Option.getD_some]

/-- An object that is added is the last one of its kind, and nothing else is added. -/
theorem ofKind_insert (set : ResourceSet) (object : Resource) (kind : Kind) :
    (set.insert object).ofKind kind =
      if object.kind = kind then set.ofKind kind ++ [object] else set.ofKind kind := by
  simp only [ofKind, insert]
  split
  · next same =>
    subst same
    rw [Grouped.lookup_insert_self object set.grouped.ascending, Option.getD_some]
  · next differ => rw [Grouped.lookup_insert_of_ne (Ne.symm differ)]

/-- What is added to a set comes behind what is there, kind by kind. -/
theorem ofKind_extend (set : ResourceSet) (objects : List Resource) (kind : Kind) :
    (set.extend objects).ofKind kind =
      set.ofKind kind ++ objects.filter fun object => object.kind == kind := by
  induction objects generalizing set with
  | nil => simp [extend]
  | cons object rest ih =>
    rw [extend, List.foldl_cons, ← extend, ih, ofKind_insert, List.filter_cons]
    by_cases same : object.kind = kind
    · simp [same]
    · simp [same]

/-- All objects of a set are listed, each among those of its kind. -/
theorem mem_toList_iff {set : ResourceSet} {object : Resource} :
    object ∈ set.toList ↔ object ∈ set.ofKind object.kind := by
  rw [toList, List.mem_flatMap]
  constructor
  · rintro ⟨⟨kind, objects⟩, held, inside⟩
    obtain rfl := set.grouped.alike _ held object inside
    rwa [(mem_groups_iff.1 held).1]
  · intro inside
    exact ⟨_, mem_groups_iff.2 ⟨rfl, List.ne_nil_of_mem inside⟩, inside⟩

/-- The objects of a kind are those of the set that are of the kind. -/
theorem mem_ofKind_iff {set : ResourceSet} {kind : Kind} {object : Resource} :
    object ∈ set.ofKind kind ↔ object ∈ set.toList ∧ object.kind = kind := by
  constructor
  · intro inside
    have held := mem_groups_iff.2 ⟨rfl, List.ne_nil_of_mem inside⟩
    have made := set.grouped.alike _ held object inside
    exact ⟨mem_toList_iff.2 (made ▸ inside), made⟩
  · rintro ⟨inside, rfl⟩
    exact mem_toList_iff.1 inside

end ResourceSet

end Converge
