import Converge.Plan.Verdict
import Converge.Proofs.Object.Grouping
import Mathlib.Data.List.Forall2

/-!
# Verdicts account for every object

Verdicts pair the objects that are wanted with those that are found, kind by kind and name by name.
Names may occur more than once and comparisons may be any at all: the first object of a name that is
found is the one that counts (`Registry.Judges`), and what is found and wanted by no name is left
over (`ResourceSet.leftOver`).

What the verdicts are about is told from the two sets alone (`Registry.subjects_verdicts`), whatever
the comparisons say. So every object is covered, and if neither set repeats a kind and a name,
exactly one verdict is about each of them (`Registry.verdicts_account_for_all`).
-/

namespace Converge

/-- The kind and the name of an object. -/
def Resource.subject (object : Resource) : Kind × String := (object.kind, object.name)

/-- The kind and the name that a verdict is about. -/
def Verdict.subject (verdict : Verdict) : Kind × String := (verdict.kind, verdict.name)

namespace ResourceSet

variable {set required deployed : ResourceSet} {kind : Kind} {name : String} {object : Resource}

/-- An object is the first one of a kind and a name in a set. -/
def IsFirst (set : ResourceSet) (kind : Kind) (name : String) (object : Resource) : Prop :=
  ∃ before after, set.ofKind kind = before ++ object :: after ∧ object.name = name ∧
    ∀ other ∈ before, other.name ≠ name

/-- The objects of a kind that are found although nothing of their name is wanted. -/
def leftOver (required deployed : ResourceSet) (kind : Kind) : List Resource :=
  (deployed.ofKind kind).filter fun found => ∀ wanted ∈ required.ofKind kind,
    wanted.name ≠ found.name

/-- The first object of a name is found by its name. -/
theorem find?_eq_some_iff : set.find? kind name = some object ↔ set.IsFirst kind name object := by
  rw [find?, List.find?_eq_some_iff_append, IsFirst]
  constructor
  · rintro ⟨named, before, after, split, others⟩
    exact ⟨before, after, split, by simpa using named, fun other inside => by
      simpa using others other inside⟩
  · rintro ⟨before, after, split, named, others⟩
    exact ⟨by simpa using named, before, after, split, fun other inside => by
      simpa using others other inside⟩

/-- Nothing is found by a name that no object bears. -/
theorem find?_eq_none_iff :
    set.find? kind name = none ↔ ∀ object ∈ set.ofKind kind, object.name ≠ name := by
  simp [find?]

/-- What no two objects of a set have in common, no two of its objects of a kind have in common. -/
theorem nodup_subjects_ofKind (distinct : (set.toList.map Resource.subject).Nodup) (kind : Kind) :
    ((set.ofKind kind).map Resource.subject).Nodup := by
  rw [toList_eq, List.map_flatMap] at distinct
  exact (List.nodup_flatMap.1 distinct).1 kind kind.mem_all

end ResourceSet

namespace Registry

variable (registry : Registry) {required deployed : ResourceSet}

/-- A verdict says of an object that is wanted what the first object of its kind and name among
those that are found calls for. -/
structure Judges (deployed : ResourceSet) (wanted : Resource) (verdict : Verdict) : Prop where
  subject_eq : verdict.subject = wanted.subject
  create_iff : verdict.action = .create ↔
    ∀ found ∈ deployed.ofKind wanted.kind, found.name ≠ wanted.name
  keep_iff : verdict.action = .keep ↔ ∃ found, deployed.IsFirst wanted.kind wanted.name found ∧
    registry.compare wanted.kind found wanted = true
  update_iff : verdict.action = .update ↔ ∃ found, deployed.IsFirst wanted.kind wanted.name found ∧
    registry.compare wanted.kind found wanted = false

/-- An object is created when none of its name is found. -/
theorem actionFor_eq_create_iff {kind : Kind} {wanted : Resource} :
    registry.actionFor deployed kind wanted = .create ↔
      deployed.find? kind wanted.name = none := by
  unfold actionFor
  cases deployed.find? kind wanted.name with
  | none => simp
  | some found => cases meets : registry.compare kind found wanted <;> simp [meets]

/-- An object is kept or updated when one of its name is found, kept if that one is as wanted. -/
theorem actionFor_eq_ite_iff {kind : Kind} {wanted : Resource} (meets : Bool) :
    registry.actionFor deployed kind wanted = (if meets then .keep else .update) ↔
      ∃ found, deployed.find? kind wanted.name = some found ∧
        registry.compare kind found wanted = meets := by
  unfold actionFor
  cases deployed.find? kind wanted.name with
  | none => cases meets <;> simp
  | some found =>
    cases compared : registry.compare kind found wanted <;> cases meets <;> simp [compared]

/-- The action that is chosen for an object judges it. -/
theorem judges_actionFor (deployed : ResourceSet) (wanted : Resource) :
    registry.Judges deployed wanted
      ⟨wanted.kind, wanted.name, registry.actionFor deployed wanted.kind wanted⟩ where
  subject_eq := rfl
  create_iff := by rw [actionFor_eq_create_iff, ResourceSet.find?_eq_none_iff]
  keep_iff := by
    simp only [← ResourceSet.find?_eq_some_iff]
    exact registry.actionFor_eq_ite_iff true
  update_iff := by
    simp only [← ResourceSet.find?_eq_some_iff]
    exact registry.actionFor_eq_ite_iff false

/-- On a kind there is a verdict for each object that is wanted and one for each that is left
over. -/
theorem verdictsOfKind_eq_append (kind : Kind) :
    registry.verdictsOfKind required deployed kind =
      (required.ofKind kind).map
          (fun wanted => ⟨kind, wanted.name, registry.actionFor deployed kind wanted⟩) ++
        (required.leftOver deployed kind).map fun found => ⟨kind, found.name, .delete⟩ := by
  have unwanted : (deployed.ofKind kind).filter
      (fun found => (required.find? kind found.name).isNone) = required.leftOver deployed kind := by
    refine List.filter_congr fun found _ => ?_
    rw [Bool.eq_iff_iff, Option.isNone_iff_eq_none, ResourceSet.find?_eq_none_iff,
      decide_eq_true_iff]
  rw [verdictsOfKind, unwanted]

/-- What the verdicts are about depends on the sets only: on what is wanted, and on what is left
over. -/
theorem subjects_verdicts :
    (registry.verdicts required deployed).map Verdict.subject =
      Kind.planning.flatMap fun kind =>
        (required.ofKind kind ++ required.leftOver deployed kind).map Resource.subject := by
  rw [verdicts, List.map_flatMap]
  refine List.flatMap_congr fun kind _ => ?_
  rw [verdictsOfKind_eq_append, List.map_append, List.map_append, List.map_map, List.map_map]
  congr 1
  · refine List.map_congr_left fun wanted inside => ?_
    exact congrArg (·, wanted.name) (ResourceSet.mem_ofKind_iff.1 inside).2.symm
  · refine List.map_congr_left fun found inside => ?_
    have among := (List.mem_filter.1 inside).1
    exact congrArg (·, found.name) (ResourceSet.mem_ofKind_iff.1 among).2.symm

/-- Every object that is wanted or found is covered by a verdict. -/
theorem subject_mem_verdicts {object : Resource}
    (inside : object ∈ required.toList ∨ object ∈ deployed.toList) :
    object.subject ∈ (registry.verdicts required deployed).map Verdict.subject := by
  rw [subjects_verdicts, List.mem_flatMap]
  refine ⟨object.kind, object.kind.mem_planning, ?_⟩
  rw [List.map_append, List.mem_append]
  rcases inside with wanted | found
  · exact .inl (List.mem_map_of_mem (ResourceSet.mem_toList_iff.1 wanted))
  · have found := ResourceSet.mem_toList_iff.1 found
    by_cases counterpart : ∃ wanted ∈ required.ofKind object.kind, wanted.name = object.name
    · obtain ⟨wanted, among, named⟩ := counterpart
      refine .inl (List.mem_map.2 ⟨wanted, among, ?_⟩)
      exact Prod.ext (ResourceSet.mem_ofKind_iff.1 among).2 named
    · refine .inr (List.mem_map_of_mem (List.mem_filter.2 ⟨found, ?_⟩))
      simpa using counterpart

private theorem kind_of_mem_subjects {kind : Kind} {subject : Kind × String}
    (inside : subject ∈
      (required.ofKind kind ++ required.leftOver deployed kind).map Resource.subject) :
    subject.1 = kind := by
  obtain ⟨object, among, rfl⟩ := List.mem_map.1 inside
  rcases List.mem_append.1 among with wanted | left
  · exact (ResourceSet.mem_ofKind_iff.1 wanted).2
  · exact (ResourceSet.mem_ofKind_iff.1 (List.mem_filter.1 left).1).2

/-- No two verdicts are about the same kind and name, if neither set repeats one. -/
theorem nodup_subjects_verdicts (wanted : (required.toList.map Resource.subject).Nodup)
    (found : (deployed.toList.map Resource.subject).Nodup) :
    ((registry.verdicts required deployed).map Verdict.subject).Nodup := by
  rw [subjects_verdicts, List.nodup_flatMap]
  constructor
  · intro kind _
    have some_left : ((required.leftOver deployed kind).map Resource.subject).Nodup :=
      (ResourceSet.nodup_subjects_ofKind found kind).sublist (List.filter_sublist.map _)
    rw [List.map_append]
    refine (ResourceSet.nodup_subjects_ofKind wanted kind).append some_left ?_
    -- What is left over has the name of nothing that is wanted.
    intro subject here there
    obtain ⟨object, among, rfl⟩ := List.mem_map.1 here
    obtain ⟨other, left, same⟩ := List.mem_map.1 there
    have apart := of_decide_eq_true (List.mem_filter.1 left).2
    exact apart object among (congrArg Prod.snd same).symm
  · refine Kind.nodup_planning.imp fun {kind other} differ subject here there => differ ?_
    exact (kind_of_mem_subjects here).symm.trans (kind_of_mem_subjects there)

/-- On each kind, in planning order, there is one verdict for each object that is wanted, in the
order of the set, and then a deletion for each object that is left over, and nothing else. So every
object that is wanted or found is covered, and no verdict repeats or contradicts another one unless
the sets themselves repeat a kind and a name. -/
theorem verdicts_account_for_all (registry : Registry) (required deployed : ResourceSet) :
    (∃ judged : Kind → List Verdict,
        registry.verdicts required deployed = (Kind.planning.flatMap fun kind =>
          judged kind ++
            (required.leftOver deployed kind).map fun found => ⟨kind, found.name, .delete⟩) ∧
        ∀ kind, List.Forall₂ (registry.Judges deployed) (required.ofKind kind) (judged kind)) ∧
      (∀ object, object ∈ required.toList ∨ object ∈ deployed.toList →
        object.subject ∈ (registry.verdicts required deployed).map Verdict.subject) ∧
      ((required.toList.map Resource.subject).Nodup →
        (deployed.toList.map Resource.subject).Nodup →
          ∀ object, object ∈ required.toList ∨ object ∈ deployed.toList →
            ((registry.verdicts required deployed).map Verdict.subject).count object.subject =
              1) := by
  refine ⟨⟨fun kind => (required.ofKind kind).map fun wanted =>
      ⟨kind, wanted.name, registry.actionFor deployed kind wanted⟩, ?_, fun kind => ?_⟩,
    fun object inside => registry.subject_mem_verdicts inside,
    fun wanted found object inside => ?_⟩
  · exact List.flatMap_congr fun kind _ => registry.verdictsOfKind_eq_append kind
  · rw [List.forall₂_map_right_iff, List.forall₂_same]
    intro wanted inside
    obtain ⟨_, rfl⟩ := ResourceSet.mem_ofKind_iff.1 inside
    exact registry.judges_actionFor deployed wanted
  · exact List.count_eq_one_of_mem (registry.nodup_subjects_verdicts wanted found)
      (registry.subject_mem_verdicts inside)

/-- A service of a type. -/
def serviceNamed (name : String) (type : Option String) : Resource :=
  .service (.of ⟨name, "tools", .empty, .empty⟩ ⟨type, .empty, []⟩)

/-- A service that is to be reached on the nodes, and a new one. -/
def wantedServices : ResourceSet :=
  ResourceSet.empty.extend [serviceNamed "nexus3" (some "NodePort"), serviceNamed "fresh" none]

/-- A service that is reached inside the cluster, and one that nothing asks for. -/
def heldServices : ResourceSet :=
  ResourceSet.empty.extend [serviceNamed "nexus3" (some "ClusterIP"), serviceNamed "stale" none]

/-- The service that nothing asks for gets one verdict. -/
theorem verdicts_account_for_stale_service :
    serviceNamed "stale" none ∈ heldServices.toList ∧
      ((Registry.empty.verdicts wantedServices heldServices).map Verdict.subject).count
        (.service, "stale") = 1 := by
  have held : serviceNamed "stale" none ∈ heldServices.toList := by decide
  obtain ⟨_, _, once⟩ := verdicts_account_for_all .empty wantedServices heldServices
  exact ⟨held, once (by decide) (by decide) _ (.inr held)⟩

end Registry

end Converge
