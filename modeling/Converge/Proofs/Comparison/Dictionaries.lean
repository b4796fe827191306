import Converge.Proofs.Comparison.Reflexive
import Mathlib.Data.List.Sort
import Mathlib.Logic.Relation

/-!
# Comparing dictionaries

Two comparisons go through the entries of one dictionary and look their keys up in another one. What
they say of the keys that only the other one has does not show in this.

Amounts meet when the sizes agree and each amount that is wanted is found. A dictionary has no key
twice, so one that is no larger than another and has all of its keys has no further ones
(`Dict.mem_keys_iff_of_size_eq`): amounts meet only under the same keys
(`Dict.amountsMeet_iff_same_keys`).

Labels and annotations meet when those that are wanted are included in those that are found, and here
further keys are meant to be tolerated. Inclusion is transitive and antisymmetric, and metadata that
is found is ordered by what it meets: `Metadata.meets_partial_order`.
-/

namespace Converge

namespace Dict

variable {dict found wanted : Dict} {key : String}

/-- Dictionaries that have the same values under the same keys are equal. -/
theorem eq_of_get?_eq {other : Dict} (same : ∀ key, dict.get? key = other.get? key) :
    dict = other := by
  have irrefl : Std.Irrefl fun a b : String × String => a.1 < b.1 :=
    ⟨fun entry => String.lt_irrefl entry.1⟩
  have antisymm : Std.Antisymm fun a b : String × String => a.1 < b.1 :=
    ⟨fun _ _ less more => absurd more (String.lt_asymm less)⟩
  refine Dict.ext (dict.ascending.eq_of_mem_iff other.ascending ?_)
  rintro ⟨key, value⟩
  rw [mem_entries_iff, mem_entries_iff, same]

/-! ## Amounts -/

/-- Where a dictionary has all keys of another one of its size, both have the same keys. -/
theorem mem_keys_iff_of_size_eq (sizes : found.size = wanted.size)
    (covered : ∀ key ∈ wanted.keys, key ∈ found.keys) (key : String) :
    key ∈ found.keys ↔ key ∈ wanted.keys := by
  have listed : wanted.keys.Subperm found.keys := List.subperm_of_subset wanted.nodup_keys covered
  have same : wanted.keys.Perm found.keys :=
    listed.perm_of_length_le (by rw [length_keys, length_keys, sizes])
  exact same.mem_iff.symm

/-- Dictionaries with the same keys are of one size. -/
theorem size_eq_of_mem_keys_iff (same : ∀ key, key ∈ found.keys ↔ key ∈ wanted.keys) :
    found.size = wanted.size := by
  have perm : found.keys.Perm wanted.keys :=
    (List.perm_ext_iff_of_nodup found.nodup_keys wanted.nodup_keys).2 same
  rw [← length_keys, ← length_keys, perm.length_eq]

/-- Each amount that is wanted is found, and equal. -/
private theorem all_amounts_iff :
    (wanted.entries.all fun entry =>
        (found.get? entry.1).any fun amount => Quantity.equal amount entry.2) = true ↔
      ∀ key amount, wanted.get? key = some amount →
        ∃ amount', found.get? key = some amount' ∧ Quantity.equal amount' amount = true := by
  simp only [List.all_eq_true, Option.any_eq_true, Prod.forall, mem_entries_iff]

/-- Amounts meet exactly when both sides have the same keys, whatever these are, and equal amounts
under each of them. So a key that only one side has, on whichever side, is never tolerated. -/
theorem amountsMeet_iff_same_keys (found wanted : Dict) :
    (found.amountsMeet wanted = true ↔
        (∀ key, key ∈ found.keys ↔ key ∈ wanted.keys) ∧
          ∀ key amount amount', found.get? key = some amount → wanted.get? key = some amount' →
            Quantity.equal amount amount' = true) ∧
      ∀ key, ¬ (key ∈ found.keys ↔ key ∈ wanted.keys) → found.amountsMeet wanted = false := by
  have meets_iff : found.amountsMeet wanted = true ↔
      (∀ key, key ∈ found.keys ↔ key ∈ wanted.keys) ∧
        ∀ key amount amount', found.get? key = some amount → wanted.get? key = some amount' →
          Quantity.equal amount amount' = true := by
    rw [amountsMeet, Bool.and_eq_true, beq_iff_eq, all_amounts_iff]
    constructor
    · rintro ⟨sizes, amounts⟩
      refine ⟨mem_keys_iff_of_size_eq sizes fun key wants => ?_, fun key amount amount' finds wants => ?_⟩
      · obtain ⟨amount, wants⟩ := mem_keys_iff.1 wants
        obtain ⟨amount', finds, _⟩ := amounts key amount wants
        exact mem_keys_iff.2 ⟨amount', finds⟩
      · obtain ⟨other, finds', equal⟩ := amounts key amount' wants
        rw [finds] at finds'
        cases finds'
        exact equal
    · rintro ⟨same, amounts⟩
      refine ⟨size_eq_of_mem_keys_iff same, fun key amount wants => ?_⟩
      obtain ⟨amount', finds⟩ := mem_keys_iff.1 ((same key).2 (mem_keys_iff.2 ⟨amount, wants⟩))
      exact ⟨amount', finds, amounts key amount' amount finds wants⟩
  refine ⟨meets_iff, fun key alone => Bool.eq_false_iff.2 fun meets => alone ?_⟩
  exact (meets_iff.1 meets).1 key

/-- A resource that goes by another name is not the one that is wanted. -/
theorem amounts_under_other_name :
    "cpu" ∈ (Dict.empty.insert "cpu" "1").keys ∧
      "cpu" ∉ (Dict.empty.insert "cores" "1").keys ∧
      (Dict.empty.insert "cpu" "1").amountsMeet (Dict.empty.insert "cores" "1") = false := by
  have here : "cpu" ∈ (Dict.empty.insert "cpu" "1").keys := by decide
  have absent : "cpu" ∉ (Dict.empty.insert "cores" "1").keys := by decide
  obtain ⟨_, alone⟩ :=
    amountsMeet_iff_same_keys (Dict.empty.insert "cpu" "1") (Dict.empty.insert "cores" "1")
  exact ⟨here, absent, alone "cpu" fun same => absent (same.1 here)⟩

/-! ## Inclusion -/

theorem isSubsetOf_trans {small middle large : Dict} (first : small.isSubsetOf middle = true)
    (second : middle.isSubsetOf large = true) : small.isSubsetOf large = true := by
  rw [isSubsetOf_iff] at *
  exact fun key value found => second key value (first key value found)

/-- Dictionaries that are included in each other are equal. -/
theorem isSubsetOf_antisymm {small large : Dict} (first : small.isSubsetOf large = true)
    (second : large.isSubsetOf small = true) : small = large := by
  rw [isSubsetOf_iff] at *
  refine eq_of_get?_eq fun key => ?_
  cases found : small.get? key with
  | none =>
    -- What the small one does not have, the large one cannot have.
    refine (Option.eq_none_iff_forall_ne_some.2 fun value found' => ?_).symm
    rw [second key value found'] at found
    cases found
  | some value => exact (first key value found).symm

/-- A dictionary is included in what comes of it when a value is added under a new key. -/
theorem isSubsetOf_insert (free : dict.get? key = none) (value : String) :
    dict.isSubsetOf (dict.insert key value) = true := by
  refine isSubsetOf_iff.2 fun other old found => ?_
  rw [get?_insert]
  split
  · next same =>
    rw [same, free] at found
    cases found
  · exact found

end Dict

namespace Metadata

variable {metadata later found wanted : Metadata}

/-- Metadata meets other metadata when it is of the same name and namespace and includes its labels
and annotations. -/
theorem meets_iff : found.meets wanted = true ↔
    found.name = wanted.name ∧ found.namespaceName = wanted.namespaceName ∧
      wanted.labels.isSubsetOf found.labels = true ∧
      wanted.annotations.isSubsetOf found.annotations = true := by
  simp only [meets, Bool.and_eq_true, beq_iff_eq, and_assoc]

theorem meets_trans {middle : Metadata} (first : found.meets middle = true)
    (second : middle.meets wanted = true) : found.meets wanted = true := by
  rw [meets_iff] at *
  obtain ⟨name, space, labels, annotations⟩ := first
  obtain ⟨name', space', labels', annotations'⟩ := second
  exact ⟨name.trans name', space.trans space', Dict.isSubsetOf_trans labels' labels,
    Dict.isSubsetOf_trans annotations' annotations⟩

theorem meets_antisymm (first : found.meets wanted = true) (second : wanted.meets found = true) :
    found = wanted := by
  rw [meets_iff] at *
  obtain ⟨name, space, labels, annotations⟩ := first
  obtain ⟨_, _, labels', annotations'⟩ := second
  cases found
  cases wanted
  cases name
  cases space
  cases Dict.isSubsetOf_antisymm labels labels'
  cases Dict.isSubsetOf_antisymm annotations annotations'
  rfl

/-- A label or an annotation is added under a key that was not there. -/
inductive Grows (metadata : Metadata) : Metadata → Prop
  | labelled {key : String} (free : metadata.labels.get? key = none) (value : String) :
      Grows metadata (metadata.addLabel key value)
  | annotated {key : String} (free : metadata.annotations.get? key = none) (value : String) :
      Grows metadata (metadata.annotate key value)

/-- Metadata that has grown meets what it was. -/
theorem Grows.meets (grows : metadata.Grows later) : later.meets metadata = true := by
  cases grows with
  | labelled free value =>
    exact meets_iff.2 ⟨rfl, rfl, Dict.isSubsetOf_insert free value, Dict.isSubsetOf_self _⟩
  | annotated free value =>
    exact meets_iff.2 ⟨rfl, rfl, Dict.isSubsetOf_self _, Dict.isSubsetOf_insert free value⟩

/-- So it does however often it has grown. -/
theorem meets_of_reflTransGen (grown : Relation.ReflTransGen Grows metadata later) :
    later.meets metadata = true := by
  induction grown with
  | refl => exact metadata.meets_self
  | tail _ grows ih => exact meets_trans grows.meets ih

/-- What metadata meets is a partial order: metadata meets itself, it meets what is met by what it
meets, and only the same metadata is met both ways. So metadata that meets what is wanted goes on to do
so while labels and annotations are added to it. -/
theorem meets_partial_order :
    (∀ metadata : Metadata, metadata.meets metadata = true) ∧
      (∀ found middle wanted : Metadata, found.meets middle = true → middle.meets wanted = true →
        found.meets wanted = true) ∧
      (∀ found wanted : Metadata, found.meets wanted = true → wanted.meets found = true →
        found = wanted) ∧
      ∀ wanted found later : Metadata, found.meets wanted = true →
        Relation.ReflTransGen Grows found later → later.meets wanted = true :=
  ⟨meets_self, fun _ _ _ => meets_trans, fun _ _ => meets_antisymm,
    fun _ _ _ meets grown => meets_trans (meets_of_reflTransGen grown) meets⟩

/-- Metadata that is wanted is met after a cluster has added a label and an annotation to it, and does
not meet what came of it. -/
theorem meets_revised :
    let wanted := ofInstance "nexus3" "tools"
    let revised := (wanted.addLabel "team" "platform").annotate "revision" "3"
    revised.meets wanted = true ∧ wanted.meets revised = false := by
  intro wanted revised
  obtain ⟨refl, _, antisymm, kept⟩ := meets_partial_order
  have labelled : wanted.Grows (wanted.addLabel "team" "platform") :=
    .labelled (by decide) "platform"
  have annotated : (wanted.addLabel "team" "platform").Grows revised :=
    .annotated (by decide) "3"
  have meets : revised.meets wanted = true :=
    kept wanted wanted revised (refl wanted) (.tail (.single labelled) annotated)
  refine ⟨meets, Bool.eq_false_iff.2 fun back => ?_⟩
  have same := congrArg (fun metadata => metadata.annotations.isEmpty) (antisymm _ _ meets back)
  exact absurd same (by decide)

end Metadata

end Converge
