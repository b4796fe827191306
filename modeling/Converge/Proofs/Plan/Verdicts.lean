import Converge.Proofs.Object.Grouping
import Converge.Proofs.Plan.Objects

/-!
# Verdicts, kind by kind

A reader is coherent (`Reader.Coherent`) when every object that it finds bears the name of its
place. Then the object of a kind that is found is the one that is wanted, if any, and a plan has at
most one verdict on each kind: `Registry.verdict?` says which, and `Instance.Planned.verdicts_eq`
that the verdicts of a plan are these, in planning order.
-/

namespace Converge

/-- Every object that is read bears the name of the place that it is read from. -/
def Reader.Coherent (reader : Reader) : Prop :=
  ∀ key value object, reader key = .ok (some value) → Resource.decode key.kind value = .ok object →
    object.name = key.name

/-- Something is stored at a place. -/
def Reader.Holds (reader : Reader) (key : Key) : Prop := ∃ value, reader key = .ok (some value)

/-- The verdict on a kind of which at most one object is wanted and at most one is found. -/
def Registry.verdict? (registry : Registry) (kind : Kind) :
    (wanted found : Option Resource) → Option Verdict
  | some wanted, some found =>
    some ⟨kind, wanted.name, if registry.compare kind found wanted then .keep else .update⟩
  | some wanted, none => some ⟨kind, wanted.name, .create⟩
  | none, some found => some ⟨kind, found.name, .delete⟩
  | none, none => none

/-- If the object that is found bears the name of the one that is wanted, one verdict is enough for
both. -/
theorem Registry.verdictsOfKind_eq_toList (registry : Registry) {required deployed : ResourceSet}
    {kind : Kind} {wanted? found? : Option Resource}
    (requires : required.ofKind kind = wanted?.toList)
    (deploys : deployed.ofKind kind = found?.toList)
    (agree : ∀ wanted ∈ wanted?, ∀ found ∈ found?, found.name = wanted.name) :
    registry.verdictsOfKind required deployed kind =
      (registry.verdict? kind wanted? found?).toList := by
  unfold verdictsOfKind actionFor ResourceSet.find?
  rw [requires, deploys]
  cases wanted? with
  | none => cases found? <;> simp [verdict?]
  | some wanted =>
    cases found? with
    | none => simp [verdict?]
    | some found =>
      have same : found.name = wanted.name := agree wanted rfl found rfl
      simp [verdict?, same]

namespace Settings

variable {settings : Settings} {capabilities : Capabilities} {reader : Reader}

/-- Where an object is read and found, it is stored at the place of its kind. -/
theorem stored_of_found? {kind : Kind} {object : Resource}
    (finds : settings.found? capabilities reader kind = some object) :
    ∃ value, reader (settings.place kind) = .ok (some value) ∧
      Resource.decode kind value = .ok object := by
  obtain ⟨request, requested, finds⟩ := Option.bind_eq_some_iff.1 finds
  have key := key_of_request? requested
  have answered := ReadRequest.answered_of_found? finds
  rcases ReadRequest.answer_cases answered with ⟨_, nothing⟩ | ⟨value, found, held, read, same⟩
  · rw [nothing] at finds
    cases finds
  · rw [same] at finds
    cases finds
    rw [key] at held read
    exact ⟨value, held, read⟩

/-- An object that is stored at the place of a kind that is read is found. -/
theorem found?_of_stored {kind : Kind} {value : Json} {object : Resource}
    (reads : settings.isRead capabilities kind = true)
    (stored : reader (settings.place kind) = .ok (some value))
    (read : Resource.decode kind value = .ok object) :
    settings.found? capabilities reader kind = some object := by
  rw [found?, request?, if_pos reads, Option.bind_some]
  exact ReadRequest.found?_of_answer (ReadRequest.answer_of_stored stored read)

/-- Where there is nothing, nothing is found. -/
theorem found?_of_absent {kind : Kind} (absent : reader (settings.place kind) = .ok none) :
    settings.found? capabilities reader kind = none := by
  unfold found? request?
  split
  · exact ReadRequest.found?_of_answer (ReadRequest.answer_of_absent absent)
  · rfl

/-- What is found of a kind depends on what is stored at its place only. -/
theorem found?_congr {other : Reader} {kind : Kind}
    (same : reader (settings.place kind) = other (settings.place kind)) :
    settings.found? capabilities reader kind = settings.found? capabilities other kind := by
  cases requested : settings.request? capabilities kind with
  | none => simp only [found?, requested, Option.bind_none]
  | some request =>
    rw [← key_of_request? requested] at same
    simp only [found?, requested, Option.bind_some, ReadRequest.found?,
      ReadRequest.answer_congr same]

theorem kind_of_found? {kind : Kind} {object : Resource}
    (finds : settings.found? capabilities reader kind = some object) : object.kind = kind := by
  obtain ⟨_, _, read⟩ := stored_of_found? finds
  exact Resource.kind_of_decode read

theorem name_of_found? (coherent : reader.Coherent) {kind : Kind} {object : Resource}
    (finds : settings.found? capabilities reader kind = some object) :
    object.name = settings.nameOf kind := by
  obtain ⟨value, held, read⟩ := stored_of_found? finds
  exact coherent (settings.place kind) value object held read

end Settings

namespace Instance.Planned

variable {reader : Reader} {probe : Except Failure Capabilities} {declaration : Instance}
  {plan : Plan}

/-- A plan is made only for an exposure that can be had. -/
theorem attainable (planned : Planned reader probe declaration plan) :
    plan.settings.Attainable plan.capabilities := by
  obtain ⟨_, satisfied, _⟩ := planned.required_eq
  exact (Settings.required_eq_ok_iff.1 satisfied).1

/-- A plan's settings bear the name of its instance. -/
theorem name_eq (planned : Planned reader probe declaration plan) :
    plan.settings.name = plan.owner := by
  rw [planned.settings_eq]
  rfl

/-- A plan's settings are those of an instance in its namespace. -/
theorem namespaceName_eq (planned : Planned reader probe declaration plan) :
    plan.settings.namespaceName = plan.namespaceName := by
  rw [planned.settings_eq]
  rfl

/-- Of each kind, a plan requires the object that its settings want. -/
theorem ofKind_required (planned : Planned reader probe declaration plan) (kind : Kind) :
    plan.required.ofKind kind = (plan.settings.wanted? kind).toList := by
  obtain ⟨wanted, satisfied, required⟩ := planned.required_eq
  obtain ⟨_, gathered⟩ := Settings.required_eq_ok_iff.1 satisfied
  rw [required, gathered, ResourceSet.holds_empty.extend]
  exact Kind.filter_filterMap_planning Resource.kind plan.settings.wanted?
    (fun _ _ wanted => Settings.kind_of_wanted? wanted) kind

/-- Kind by kind, a plan requires what its settings want. -/
theorem toList_required (planned : Planned reader probe declaration plan) :
    plan.required.toList = Kind.all.filterMap plan.settings.wanted? := by
  rw [ResourceSet.toList_eq, List.filterMap_eq_flatMap_toList]
  exact List.flatMap_congr fun kind _ => planned.ofKind_required kind

/-- A plan requires an object exactly when its settings want it as the object of its kind. -/
theorem mem_required_iff (planned : Planned reader probe declaration plan) {object : Resource} :
    object ∈ plan.required.toList ↔ plan.settings.wanted? object.kind = some object := by
  rw [planned.toList_required, List.mem_filterMap]
  constructor
  · rintro ⟨kind, _, wanted⟩
    rw [Settings.kind_of_wanted? wanted]
    exact wanted
  · intro wanted
    exact ⟨object.kind, object.kind.mem_all, wanted⟩

/-- Of each kind, a plan holds the object that was found. -/
theorem ofKind_deployed (planned : Planned reader probe declaration plan) (kind : Kind) :
    plan.deployed.ofKind kind =
      (plan.settings.found? plan.capabilities reader kind).toList := by
  rw [planned.deployed_eq, ResourceSet.holds_empty.extend, Settings.reads_eq_filterMap,
    List.nil_append, List.filterMap_filterMap]
  exact Kind.filter_filterMap_planning Resource.kind
    (plan.settings.found? plan.capabilities reader)
    (fun _ _ finds => Settings.kind_of_found? finds) kind

/-- Every request of a plan was answered. -/
theorem answered_of_request? (planned : Planned reader probe declaration plan) {kind : Kind}
    {request : ReadRequest}
    (requested : plan.settings.request? plan.capabilities kind = some request) :
    request.Answered reader := by
  apply planned.answered
  rw [Settings.reads_eq_filterMap]
  exact List.mem_filterMap.2 ⟨kind, kind.mem_planning, requested⟩

/-- An object of a kind is found exactly when the kind is read and something is stored at its
place. -/
theorem exists_found?_iff (planned : Planned reader probe declaration plan) (kind : Kind) :
    (∃ object, plan.settings.found? plan.capabilities reader kind = some object) ↔
      plan.settings.isRead plan.capabilities kind = true ∧
        reader.Holds (plan.settings.place kind) := by
  constructor
  · rintro ⟨object, finds⟩
    obtain ⟨value, held, _⟩ := Settings.stored_of_found? finds
    obtain ⟨request, requested, _⟩ := Option.bind_eq_some_iff.1 finds
    exact ⟨Settings.isRead_of_request? requested, value, held⟩
  · rintro ⟨reads, value, held⟩
    have requested : plan.settings.request? plan.capabilities kind = some _ := if_pos reads
    have answered := planned.answered_of_request? requested
    rcases ReadRequest.answer_cases answered with ⟨nothing, _⟩ | ⟨_, object, _, _, finds⟩
    · rw [held] at nothing
      cases nothing
    · exact ⟨object, by rw [Settings.found?, requested]; exact finds⟩

/-- On a coherent cluster a plan has at most one verdict on each kind. -/
theorem verdictsOfKind_eq (planned : Planned reader probe declaration plan)
    (coherent : reader.Coherent) (kind : Kind) :
    plan.registry.verdictsOfKind plan.required plan.deployed kind =
      (plan.registry.verdict? kind (plan.settings.wanted? kind)
        (plan.settings.found? plan.capabilities reader kind)).toList := by
  apply Registry.verdictsOfKind_eq_toList _ (planned.ofKind_required kind)
    (planned.ofKind_deployed kind)
  intro wanted wants found finds
  rw [Settings.name_of_found? coherent finds, Settings.name_of_wanted? wants]

/-- On a coherent cluster the verdicts of a plan are those on each kind in planning order. -/
theorem verdicts_eq (planned : Planned reader probe declaration plan)
    (coherent : reader.Coherent) :
    plan.verdicts = Kind.planning.filterMap fun kind =>
      plan.registry.verdict? kind (plan.settings.wanted? kind)
        (plan.settings.found? plan.capabilities reader kind) := by
  rw [List.filterMap_eq_flatMap_toList]
  exact List.flatMap_congr fun kind _ => planned.verdictsOfKind_eq coherent kind

end Instance.Planned

end Converge
