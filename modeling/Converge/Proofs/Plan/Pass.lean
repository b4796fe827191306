import Converge.Plan.Basic
import Converge.Proofs.Codec.RoundTrip
import Converge.Proofs.Facet.Ownership

/-!
# What a pass that gives a plan has done

A pass gives a plan exactly when each of its steps gives what the next one needs.
`Instance.Planned` lists the steps: the instance has a name and a namespace, its specification is
valid, the cluster tells its capabilities, every facet can have what it wants, and every object that
is read has the form of its kind. That no kind has two owners is not among the steps, as the facets
of an instance always pass this check (`Facet.checkOwnership_all`). By `Instance.planned_iff` this is
all that a pass does, so other statements about plans start here and need not follow the pass
themselves.

A request is answered (`ReadRequest.Answered`) when there is nothing at its place or an object of
its kind, and `found?` is the object that the answer holds.
-/

namespace Converge

namespace Trace

variable {event error α β : Type}

@[simp] theorem result_of (result : Except error α) :
    (of result : Trace event error α).result = result := rfl

@[simp] theorem result_ask (question : event) (answer : Except error α) :
    (ask question answer).result = answer := rfl

@[simp] theorem result_pure (value : α) :
    (pure value : Trace event error α).result = .ok value := rfl

/-- Joined computations give a value exactly when both of them do. -/
theorem result_bind_eq_ok_iff {first : Trace event error α} {next : α → Trace event error β}
    {value : β} :
    (first >>= next).result = .ok value ↔
      ∃ between, first.result = .ok between ∧ (next between).result = .ok value := by
  change (bind first next).result = .ok value ↔ _
  cases ended : first.result with
  | error failure => simp [bind, ended]
  | ok between => simp [bind, ended]

end Trace

namespace ReadRequest

variable {reader : Reader} {request : ReadRequest}

/-- A request is answered when reading its place does not fail. -/
def Answered (reader : Reader) (request : ReadRequest) : Prop :=
  ∃ found, request.answer reader = .ok found

/-- The object that a request finds. -/
def found? (reader : Reader) (request : ReadRequest) : Option Resource :=
  match request.answer reader with
  | .ok found => found
  | .error _ => none

/-- Telling a failure of another instance does not change an answer. -/
theorem answer_eq_ok_iff {found : Option Resource} :
    request.answer reader = .ok found ↔ fetch reader request.key = .ok found := by
  unfold answer
  cases request.owner with
  | none => rfl
  | some owner => exact mapError_eq_ok_iff

/-- At the place of an answered request there is nothing, or the object that is found there. -/
theorem answer_cases (answered : request.Answered reader) :
    (reader request.key = .ok none ∧ request.found? reader = none) ∨
      ∃ value object, reader request.key = .ok (some value) ∧
        Resource.decode request.key.kind value = .ok object ∧
        request.found? reader = some object := by
  obtain ⟨found, answer⟩ := answered
  have fetched := answer_eq_ok_iff.1 answer
  have finds : request.found? reader = found := by simp only [found?, answer]
  unfold fetch at fetched
  cases held : reader request.key with
  | error _ => simp [held] at fetched
  | ok content =>
    cases content with
    | none => exact .inl ⟨rfl, finds.trans (by simpa [held] using fetched.symm)⟩
    | some value =>
      cases read : Resource.decode request.key.kind value with
      | error _ => simp [held, read, Except.map] at fetched
      | ok object =>
        refine .inr ⟨value, object, rfl, read, finds.trans ?_⟩
        simpa [held, read, Except.map] using fetched.symm

/-- Where there is nothing, a request is answered and finds nothing. -/
theorem answer_of_absent (absent : reader request.key = .ok none) :
    request.answer reader = .ok none :=
  answer_eq_ok_iff.2 (by simp only [fetch, absent])

/-- Where an object of the kind is stored, a request is answered with it. -/
theorem answer_of_stored {value : Json} {object : Resource}
    (stored : reader request.key = .ok (some value))
    (read : Resource.decode request.key.kind value = .ok object) :
    request.answer reader = .ok (some object) :=
  answer_eq_ok_iff.2 (by simp only [fetch, stored, read, Except.map])

theorem found?_of_answer {found : Option Resource} (answer : request.answer reader = .ok found) :
    request.found? reader = found := by
  simp only [found?, answer]

/-- A request that finds an object is answered. -/
theorem answered_of_found? {object : Resource} (finds : request.found? reader = some object) :
    request.Answered reader := by
  unfold found? at finds
  cases answer : request.answer reader with
  | error _ => simp [answer] at finds
  | ok found => exact ⟨found, answer⟩

/-- An answer depends on what is stored at the place of the request only. -/
theorem answer_congr {other : Reader} (same : reader request.key = other request.key) :
    request.answer reader = request.answer other := by
  unfold answer fetch
  rw [same]

/-- The requests of a pass are all answered when it succeeds, and it gives what they find. -/
theorem passAll_result_eq_ok_iff {requests : List ReadRequest} {objects : List Resource} :
    (passAll reader requests).result = .ok objects ↔
      (∀ request ∈ requests, request.Answered reader) ∧
        objects = requests.filterMap (found? reader) := by
  induction requests generalizing objects with
  | nil => simp [passAll, eq_comm]
  | cons request rest ih =>
    simp only [passAll, Trace.result_bind_eq_ok_iff, Trace.result_ask, Trace.result_pure, ih,
      List.forall_mem_cons, Except.ok.injEq]
    constructor
    · rintro ⟨found, answer, others, ⟨answered, rfl⟩, rfl⟩
      refine ⟨⟨⟨found, answer⟩, answered⟩, ?_⟩
      rw [List.filterMap_cons, found?_of_answer answer]
      cases found <;> rfl
    · rintro ⟨⟨⟨found, answer⟩, answered⟩, rfl⟩
      refine ⟨found, answer, _, ⟨answered, rfl⟩, ?_⟩
      rw [List.filterMap_cons, found?_of_answer answer]
      cases found <;> rfl

end ReadRequest

/-- The plan that is made in the place of another where other objects are found. -/
def Plan.reread (plan : Plan) (reader : Reader) : Plan :=
  { plan with
    deployed := ResourceSet.empty.extend
      ((plan.settings.reads plan.capabilities).filterMap (ReadRequest.found? reader)) }

@[simp] theorem Plan.settings_reread (plan : Plan) (reader : Reader) :
    (plan.reread reader).settings = plan.settings := rfl

@[simp] theorem Plan.capabilities_reread (plan : Plan) (reader : Reader) :
    (plan.reread reader).capabilities = plan.capabilities := rfl

@[simp] theorem Plan.registry_reread (plan : Plan) (reader : Reader) :
    (plan.reread reader).registry = plan.registry := rfl

namespace Instance

variable {declaration : Instance}

/-- An instance has a name and a namespace, neither of them empty. -/
structure Named (declaration : Instance) (name space : String) : Prop where
  name_eq : declaration.metadata.name = some name
  name_ne : name ≠ ""
  space_eq : declaration.metadata.namespaceName = some space
  space_ne : space ≠ ""

/-- An instance without a name has no identity. -/
theorem identity_of_unnamed (blank : declaration.metadata.name.getD "" = "") :
    declaration.identity =
      .error (.invalid "unknown" "Nexus resource has no name" none) := by
  rw [identity, Settings.nonEmpty_eq_none_iff.2 blank]
  rfl

/-- An instance with a name and without a namespace has no identity. -/
theorem identity_of_unplaced {name : String} (named : declaration.metadata.name = some name)
    (given : name ≠ "") (blank : declaration.metadata.namespaceName.getD "" = "") :
    declaration.identity = .error (.invalid name "Nexus resource has no namespace" none) := by
  rw [identity, Settings.nonEmpty_eq_some_iff.2 ⟨named, given⟩,
    Settings.nonEmpty_eq_none_iff.2 blank]

/-- An instance has an identity exactly when it has a name and a namespace. -/
theorem identity_eq_ok_iff {name space : String} :
    declaration.identity = .ok (name, space) ↔ declaration.Named name space := by
  constructor
  · intro identified
    unfold identity at identified
    split at identified
    · cases identified
    · next named =>
      split at identified
      · cases identified
      · next placed =>
        cases identified
        obtain ⟨name_eq, name_ne⟩ := Settings.nonEmpty_eq_some_iff.1 named
        obtain ⟨space_eq, space_ne⟩ := Settings.nonEmpty_eq_some_iff.1 placed
        exact ⟨name_eq, name_ne, space_eq, space_ne⟩
  · intro named
    rw [identity, Settings.nonEmpty_eq_some_iff.2 ⟨named.name_eq, named.name_ne⟩,
      Settings.nonEmpty_eq_some_iff.2 ⟨named.space_eq, named.space_ne⟩]

/-- The name and the namespace of an instance are those that it declares. -/
theorem metadata_of_identity {name space : String}
    (identified : declaration.identity = .ok (name, space)) :
    declaration.metadata.name = some name ∧ declaration.metadata.namespaceName = some space := by
  have named := identity_eq_ok_iff.1 identified
  exact ⟨named.name_eq, named.space_eq⟩

/-- What holds of a plan that a pass over an instance gives. -/
structure Planned (reader : Reader) (probe : Except Failure Capabilities)
    (declaration : Instance) (plan : Plan) : Prop where
  identity_eq : declaration.identity = .ok (plan.owner, plan.namespaceName)
  valid : declaration.spec.validate plan.owner = .ok ()
  probe_eq : probe = .ok plan.capabilities
  settings_eq : plan.settings =
    .normalize plan.owner plan.namespaceName declaration.spec plan.capabilities
  required_eq : ∃ wanted, plan.settings.required plan.capabilities = .ok wanted ∧
    plan.required = ResourceSet.empty.extend wanted
  answered : ∀ request ∈ plan.settings.reads plan.capabilities, request.Answered reader
  deployed_eq : plan.deployed = ResourceSet.empty.extend
    ((plan.settings.reads plan.capabilities).filterMap (ReadRequest.found? reader))
  registry_eq : plan.registry = .ofKinds Facet.ownedKinds

/-- A pass gives a plan exactly when all of its steps succeed, and the plan holds what they gave. -/
theorem planned_iff {reader : Reader} {probe : Except Failure Capabilities}
    {declaration : Instance} {plan : Plan} :
    (declaration.plan reader probe).result = .ok plan ↔
      Planned reader probe declaration plan := by
  simp only [Instance.plan, Trace.result_bind_eq_ok_iff, Trace.result_of, Trace.result_ask,
    Trace.result_pure, ReadRequest.passAll_result_eq_ok_iff]
  constructor
  · rintro ⟨⟨owner, space⟩, named, ⟨⟩, valid, capabilities, told, ⟨⟩, -, wanted, satisfied,
      objects, ⟨answered, rfl⟩, made⟩
    cases made
    exact ⟨named, valid, told, rfl, ⟨wanted, satisfied, rfl⟩, answered, rfl, rfl⟩
  · intro planned
    obtain ⟨owner, space, capabilities, settings, required, deployed, registry⟩ := plan
    obtain ⟨named, valid, told, settled, ⟨wanted, satisfied, requires⟩, answered, deploys,
      registered⟩ := planned
    simp only at named valid told settled satisfied requires answered deploys registered
    subst settled requires deploys registered
    exact ⟨(owner, space), named, (), valid, capabilities, told, (), Facet.checkOwnership_all,
      wanted, satisfied, _, ⟨answered, rfl⟩, rfl⟩

/-- Where every request of a plan is answered, the next pass over the instance gives a plan that
differs in what it has found only. -/
theorem Planned.reread {reader other : Reader} {probe : Except Failure Capabilities}
    {declaration : Instance} {plan : Plan} (planned : Planned reader probe declaration plan)
    (answered : ∀ request ∈ plan.settings.reads plan.capabilities, request.Answered other) :
    Planned other probe declaration (plan.reread other) :=
  { identity_eq := planned.identity_eq
    valid := planned.valid
    probe_eq := planned.probe_eq
    settings_eq := planned.settings_eq
    required_eq := planned.required_eq
    answered := answered
    deployed_eq := rfl
    registry_eq := planned.registry_eq }

end Instance

end Converge
