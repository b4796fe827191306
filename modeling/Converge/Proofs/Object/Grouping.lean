import Converge.Object.ResourceSet
import Mathlib.Data.List.Sort

/-!
# A set holds what is added to it

All that a set shows is told by what it shows of each kind: its kinds are those of which it shows
something (`ResourceSet.kinds_eq`), its list goes through them in the order of grouping
(`ResourceSet.toList_eq`), and sets that show the same of each kind are equal
(`ResourceSet.eq_of_ofKind_eq`).

So it is enough to follow the objects of one kind while objects are added. A set holds a list when it
shows of each kind the part of the list that is of the kind (`ResourceSet.Holds`). Adding keeps this
(`ResourceSet.Holds.extend`), and a set that comes about by adding holds all that was added, in
whatever portions: `ResourceSet.foldl_extend_keeps_all`.
-/

namespace Converge

namespace ResourceSet

variable (set : ResourceSet)

/-! ## What a set shows -/

/-- There is a group for each kind of which something is shown. -/
theorem mem_kinds_iff {kind : Kind} : kind ∈ set.kinds ↔ set.ofKind kind ≠ [] := by
  rw [kinds, List.mem_map]
  constructor
  · rintro ⟨⟨_, objects⟩, held, rfl⟩
    obtain ⟨shown, filled⟩ := mem_groups_iff.1 held
    rwa [shown]
  · intro filled
    exact ⟨(kind, set.ofKind kind), mem_groups_iff.2 ⟨rfl, filled⟩, rfl⟩

/-- The kinds of a set are those of which it shows something, in the order of grouping. -/
theorem kinds_eq : set.kinds = Kind.all.filter fun kind => set.ofKind kind ≠ [] := by
  have irrefl : Std.Irrefl fun a b : Kind => a.rank < b.rank := ⟨fun _ => Nat.lt_irrefl _⟩
  have antisymm : Std.Antisymm fun a b : Kind => a.rank < b.rank :=
    ⟨fun _ _ less more => absurd more (Nat.lt_asymm less)⟩
  have ordered : set.kinds.Pairwise fun a b => a.rank < b.rank :=
    List.pairwise_map.2 set.grouped.ascending
  have all_ordered : Kind.all.Pairwise fun a b => a.rank < b.rank := by decide
  refine ordered.eq_of_mem_iff (all_ordered.filter _) fun kind => ?_
  simp [mem_kinds_iff, kind.mem_all]

/-- The group of a kind is what is shown of the kind. -/
theorem groups_eq : set.groups = set.kinds.map fun kind => (kind, set.ofKind kind) := by
  rw [kinds, List.map_map]
  refine (List.map_id _).symm.trans (List.map_congr_left fun group held => ?_)
  exact Prod.ext rfl (mem_groups_iff.1 held).1.symm

/-- Nothing is missed where kinds are passed of which nothing is shown. -/
private theorem flatMap_filter_ofKind (kinds : List Kind) :
    (kinds.filter fun kind => set.ofKind kind ≠ []).flatMap set.ofKind =
      kinds.flatMap set.ofKind := by
  induction kinds with
  | nil => rfl
  | cons kind rest ih =>
    by_cases nothing : set.ofKind kind = []
    · rw [List.filter_cons_of_neg (by simp [nothing]), ih, List.flatMap_cons, nothing,
        List.nil_append]
    · rw [List.filter_cons_of_pos (by simp [nothing]), List.flatMap_cons, List.flatMap_cons, ih]

/-- All objects of a set are those of its kinds, one kind after the other. -/
theorem toList_eq : set.toList = Kind.all.flatMap set.ofKind := by
  rw [toList, groups_eq, List.flatMap_map, kinds_eq, flatMap_filter_ofKind]

/-- Sets that show the same of each kind are equal. -/
theorem eq_of_ofKind_eq {set other : ResourceSet}
    (same : ∀ kind, set.ofKind kind = other.ofKind kind) : set = other := by
  have groups : set.groups = other.groups := by
    rw [groups_eq, groups_eq, kinds_eq, kinds_eq, funext same]
  cases set
  cases other
  cases groups
  rfl

/-- The objects of a kind in the list of a set are those that are shown of the kind. -/
theorem filter_toList (kind : Kind) :
    (set.toList.filter fun object => object.kind == kind) = set.ofKind kind := by
  rw [toList_eq]
  exact Kind.filter_flatMap Kind.nodup_all kind.mem_all fun _ _ inside => (mem_ofKind_iff.1 inside).2

/-- The size of a set is the length of its list. -/
theorem size_eq : set.size = set.toList.length := by
  rw [size, toList]
  induction set.groups with
  | nil => rfl
  | cons group rest ih => rw [List.foldr_cons, List.flatMap_cons, List.length_append, ih]

/-! ## Adding -/

/-- A set shows of each kind the objects of a list that are of the kind, in their order. -/
def Holds (added : List Resource) : Prop :=
  ∀ kind, set.ofKind kind = added.filter fun object => object.kind == kind

theorem holds_empty : empty.Holds [] := ofKind_empty

/-- A set holds its own list. -/
theorem holds_toList : set.Holds set.toList := fun kind => (set.filter_toList kind).symm

namespace Holds

variable {set} {added : List Resource}

/-- A set that is extended holds what is added behind what it held. -/
theorem extend (holds : set.Holds added) (objects : List Resource) :
    (set.extend objects).Holds (added ++ objects) := by
  intro kind
  rw [ofKind_extend, holds kind, List.filter_append]

/-- So it is with objects that are added in several portions. -/
theorem foldl_extend (holds : set.Holds added) (batches : List (List Resource)) :
    (batches.foldl ResourceSet.extend set).Holds (added ++ batches.flatten) := by
  induction batches generalizing set added with
  | nil => simpa using holds
  | cons objects rest ih =>
    rw [List.foldl_cons, List.flatten_cons, ← List.append_assoc]
    exact ih (holds.extend objects)

/-- A set is told by what it holds. -/
theorem unique {other : ResourceSet} (holds : set.Holds added) (held : other.Holds added) :
    set = other :=
  eq_of_ofKind_eq fun kind => (holds kind).trans (held kind).symm

theorem filter_toList (holds : set.Holds added) (kind : Kind) :
    (set.toList.filter fun object => object.kind == kind) =
      added.filter fun object => object.kind == kind := by
  rw [ResourceSet.filter_toList, holds kind]

/-- No object is lost and none is there twice that was added once. -/
theorem perm (holds : set.Holds added) : set.toList.Perm added := by
  refine List.perm_iff_count.2 fun object => ?_
  have counts (objects : List Resource) : objects.count object =
      (objects.filter fun other => other.kind == object.kind).count object :=
    (List.count_filter (by simp)).symm
  rw [counts, holds.filter_toList, ← counts]

theorem mem_kinds_iff (holds : set.Holds added) {kind : Kind} :
    kind ∈ set.kinds ↔ ∃ object ∈ added, object.kind = kind := by
  rw [ResourceSet.mem_kinds_iff, holds kind, Ne, List.filter_eq_nil_iff]
  simp

theorem find?_eq (holds : set.Holds added) (kind : Kind) (name : String) :
    set.find? kind name =
      added.find? fun object => object.kind = kind ∧ object.name = name := by
  rw [find?, holds kind, List.find?_filter]
  congr 1
  funext object
  rw [Bool.eq_iff_iff]
  simp

end Holds

/-- A set to which objects were added in any portions holds them all. It shows those of a kind in the
order in which they were added, and lists them kind by kind in the order of grouping, so that nothing
is lost, nothing repeated, and the order within a kind kept; its size and its kinds are those of what
was added, and what it finds by kind and name is the first such object that was added. -/
theorem foldl_extend_keeps_all (batches : List (List Resource)) :
    let set := batches.foldl extend empty
    let added := batches.flatten
    (∀ kind, set.ofKind kind = added.filter fun object => object.kind = kind) ∧
      set.toList = Kind.all.flatMap set.ofKind ∧
      set.toList.Perm added ∧
      (∀ kind, (set.toList.filter fun object => object.kind = kind) =
        added.filter fun object => object.kind = kind) ∧
      set.size = added.length ∧
      (set.isEmpty = true ↔ added = []) ∧
      set.kinds.Sublist Kind.all ∧
      set.kinds.Nodup ∧
      (∀ kind, kind ∈ set.kinds ↔ ∃ object ∈ added, object.kind = kind) ∧
      ∀ kind name, set.find? kind name =
        added.find? fun object => object.kind = kind ∧ object.name = name := by
  intro set added
  have holds : set.Holds added := holds_empty.foldl_extend batches
  have sizes : set.size = added.length := by rw [size_eq, holds.perm.length_eq]
  have listed : set.kinds.Sublist Kind.all := by
    rw [kinds_eq]
    exact List.filter_sublist
  refine ⟨holds, set.toList_eq, holds.perm, holds.filter_toList, sizes, ?_, listed,
    Kind.nodup_all.sublist listed, fun kind => holds.mem_kinds_iff, holds.find?_eq⟩
  rw [isEmpty, beq_iff_eq, sizes, List.length_eq_zero_iff]

/-! ## Changing every object -/

/-- A set with a change made to each of its objects. -/
def map (change : Resource → Resource) : ResourceSet := empty.extend (set.toList.map change)

section Map

variable {set} {change : Resource → Resource} (kept : ∀ object, (change object).kind = object.kind)

include kept

private theorem filter_map_kind (objects : List Resource) (kind : Kind) :
    (objects.map change).filter (fun object => object.kind == kind) =
      (objects.filter fun object => object.kind == kind).map change := by
  rw [List.filter_map]
  congr 1
  exact List.filter_congr fun object _ => by rw [Function.comp_apply, kept]

/-- A change that keeps the kinds of objects is made to what a set holds. -/
theorem Holds.map {added : List Resource} (holds : set.Holds added) :
    (set.map change).Holds (added.map change) := by
  intro kind
  rw [ResourceSet.map, holds_empty.extend, List.nil_append, filter_map_kind kept,
    filter_map_kind kept, holds.filter_toList]

/-- It is made to what is shown of each kind. -/
theorem ofKind_map (kind : Kind) : (set.map change).ofKind kind = (set.ofKind kind).map change := by
  rw [set.holds_toList.map kept kind, filter_map_kind kept, filter_toList]

/-- It may be made before the objects are added. -/
theorem map_extend_empty (objects : List Resource) :
    (empty.extend objects).map change = empty.extend (objects.map change) :=
  ((holds_empty.extend objects).map kept).unique (holds_empty.extend _)

/-- A set stays as it is exactly when each of its objects does. -/
theorem map_eq_self_iff : set.map change = set ↔ ∀ object ∈ set.toList, change object = object := by
  have parts : set.map change = set ↔ ∀ kind, (set.ofKind kind).map change = set.ofKind kind := by
    refine ⟨fun same kind => ?_, fun same => eq_of_ofKind_eq fun kind => ?_⟩
    · rw [← ofKind_map kept, same]
    · rw [ofKind_map kept, same]
  rw [parts]
  constructor
  · intro same object inside
    refine List.map_inj_left.1 ((same object.kind).trans (List.map_id _).symm) object ?_
    exact mem_toList_iff.1 inside
  · intro same kind
    refine (List.map_congr_left fun object inside => ?_).trans (List.map_id _)
    exact same object (mem_ofKind_iff.1 inside).1

end Map

theorem map_id : set.map id = set := (map_eq_self_iff fun _ => rfl).2 fun _ _ => rfl

end ResourceSet

end Converge
