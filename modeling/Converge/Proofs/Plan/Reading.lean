import Converge.Proofs.Object.Grouping
import Converge.Proofs.Plan.Objects
import Mathlib.Data.List.Nodup

/-!
# What a pass asks, and in which order

Before a pass reads anything, everything that can be refused without reading has been refused:
`Instance.Refused` lists the five reasons in the order in which they are looked for, each with the
questions asked until then. That a kind has two owners is no sixth reason, as the facets of an
instance always pass this check (`Facet.checkOwnership_all`). An instance that is admitted
(`Instance.Admitted`) has the objects at `Settings.keys` read one after the other, each once, until
a place cannot be read or does not hold an object of its kind. The failure at this place is the
failure of the pass, and nothing behind it is read.

The main statement is `Instance.asks_in_order`. It takes a reader as a function, which is to say
that no answer is waited for while another question is asked.
-/

namespace Converge

namespace Trace

variable {event error α β : Type}

/-- A value without events is simply passed on. -/
theorem of_ok_bind (value : α) (next : α → Trace event error β) :
    (of (.ok value) >>= next) = next value := rfl

/-- A failure without events is all that is left. -/
theorem of_error_bind (failure : error) (next : α → Trace event error β) :
    (of (.error failure) >>= next) = ⟨[], .error failure⟩ := rfl

/-- A question that is answered comes first. -/
theorem ask_ok_bind (question : event) (value : α) (next : α → Trace event error β) :
    (ask question (.ok value) >>= next) =
      ⟨question :: (next value).events, (next value).result⟩ := rfl

/-- A question that is not answered is the last one. -/
theorem ask_error_bind (question : event) (failure : error) (next : α → Trace event error β) :
    (ask question (.error failure) >>= next) = ⟨[question], .error failure⟩ := rfl

/-- What is made of a value changes nothing about the events. -/
theorem bind_pure_eq (first : Trace event error α) (make : α → β) :
    (first >>= fun value => pure (make value)) = ⟨first.events, first.result.map make⟩ := by
  change bind first _ = _
  unfold bind
  cases first.result with
  | error failure => rfl
  | ok value => simp [pure, of, Except.map]

end Trace

/-! ## Reading one place -/

namespace Reader

/-- What is found at a place: nothing, or an object of the kind of the place. -/
def Finds (reader : Reader) (key : Key) : Option Resource → Prop
  | none => reader key = .ok none
  | some object => ∃ value, reader key = .ok (some value) ∧
      Resource.decode key.kind value = .ok object

/-- Why nothing is found out about a place: it cannot be read, or what is there is not an object of
its kind. -/
def Fails (reader : Reader) (key : Key) (failure : Failure) : Prop :=
  reader key = .error failure ∨
    ∃ value, reader key = .ok (some value) ∧ Resource.decode key.kind value = .error failure

/-- Of some places, the first about which nothing is found out, and those before it. -/
structure FailsFirst (reader : Reader) (keys before : List Key) (key : Key) (failure : Failure) :
    Prop where
  split : ∃ after, keys = before ++ key :: after
  found : ∀ earlier ∈ before, ∃ object?, reader.Finds earlier object?
  fails : reader.Fails key failure

variable {reader : Reader}

theorem fetch_eq_ok_iff {key : Key} {object? : Option Resource} :
    ReadRequest.fetch reader key = .ok object? ↔ reader.Finds key object? := by
  unfold ReadRequest.fetch
  cases held : reader key with
  | error failure => cases object? <;> simp [Finds, held]
  | ok content =>
    cases content with
    | none => cases object? <;> simp [Finds, held]
    | some value =>
      cases read : Resource.decode key.kind value <;> cases object? <;>
        simp [Finds, held, read, Except.map]

theorem fetch_eq_error_iff {key : Key} {failure : Failure} :
    ReadRequest.fetch reader key = .error failure ↔ reader.Fails key failure := by
  unfold ReadRequest.fetch Fails
  cases held : reader key with
  | error failure => simp
  | ok content =>
    cases content with
    | none => simp
    | some value => cases read : Resource.decode key.kind value <;> simp [read, Except.map]

/-- Either something is found out about every place, or there is a first one of which this is not
so. -/
theorem finds_or_failsFirst (reader : Reader) (keys : List Key) :
    (∀ key ∈ keys, ∃ object?, reader.Finds key object?) ∨
      ∃ before key failure, reader.FailsFirst keys before key failure := by
  induction keys with
  | nil => exact .inl fun _ inside => absurd inside List.not_mem_nil
  | cons key rest ih =>
    cases fetched : ReadRequest.fetch reader key with
    | error failure =>
      refine .inr ⟨[], key, failure, ⟨rest, rfl⟩, ?_, fetch_eq_error_iff.1 fetched⟩
      exact fun _ inside => absurd inside List.not_mem_nil
    | ok object? =>
      have here := fetch_eq_ok_iff.1 fetched
      rcases ih with found | ⟨before, other, failure, ⟨after, split⟩, found, fails⟩
      · exact .inl (List.forall_mem_cons.2 ⟨⟨object?, here⟩, found⟩)
      · refine .inr ⟨key :: before, other, failure, ⟨after, ?_⟩, ?_, fails⟩
        · rw [split, List.cons_append]
        · exact List.forall_mem_cons.2 ⟨⟨object?, here⟩, found⟩

end Reader

/-! ## Reading one place after the other -/

namespace Settings

/-- The places that are read, in their order. -/
def keys (settings : Settings) (capabilities : Capabilities) : List Key :=
  let own (kind : Kind) : Key := ⟨kind, settings.namespaceName, settings.name⟩
  [⟨.serviceAccount, settings.namespaceName, settings.serviceAccountName⟩] ++
    (if settings.persistence.persistent then [own .volumeClaim] else []) ++
    [own .deployment, own .service] ++
    (if capabilities.routes then [own .route] else []) ++
    (if capabilities.ingress then [own .ingress] else [])

/-- How a failure at a place is told: at the account, whose name may be another one, it is told of
the instance. -/
def tell (settings : Settings) (key : Key) (failure : Failure) : Failure :=
  if key.kind = .serviceAccount then failure.attribute key.name settings.name else failure

/-- The request to read a place. -/
def requestAt (settings : Settings) (key : Key) : ReadRequest :=
  ⟨key, if key.kind = .serviceAccount then some settings.name else none⟩

variable {settings : Settings} {capabilities : Capabilities} {reader : Reader}

/-- What is read are the places, in their order. -/
theorem reads_eq_map_keys :
    settings.reads capabilities = (settings.keys capabilities).map settings.requestAt := by
  simp only [reads, Facet.all, List.flatMap_cons, List.flatMap_nil, Facet.reads, Facet.readOwn,
    keys]
  cases settings.persistence.persistent <;> cases capabilities.routes <;>
    cases capabilities.ingress <;> rfl

/-- No place is read twice, as there is one place for each kind. -/
theorem nodup_keys : (settings.keys capabilities).Nodup := by
  refine List.Nodup.of_map Key.kind ?_
  unfold keys
  cases settings.persistence.persistent <;> cases capabilities.routes <;>
    cases capabilities.ingress <;> simp

/-- The request for a place is answered with what is found there. -/
theorem answer_of_finds {key : Key} {object? : Option Resource}
    (found : reader.Finds key object?) :
    (settings.requestAt key).answer reader = .ok object? :=
  ReadRequest.answer_eq_ok_iff.2 (Reader.fetch_eq_ok_iff.2 found)

/-- The request for a place fails as the place does. -/
theorem answer_of_fails {key : Key} {failure : Failure} (fails : reader.Fails key failure) :
    (settings.requestAt key).answer reader = .error (settings.tell key failure) := by
  have fetched := Reader.fetch_eq_error_iff.2 fails
  unfold ReadRequest.answer requestAt tell
  by_cases account : key.kind = .serviceAccount
  · simp only [account, if_true, fetched, Except.mapError]
  · simp only [account, if_false, fetched]

end Settings

namespace ReadRequest

variable {reader : Reader} {request : ReadRequest} {requests : List ReadRequest}

/-- After an answer the pass goes on with the other requests. -/
theorem passAll_cons_of_answer {object? : Option Resource}
    (answer : request.answer reader = .ok object?) :
    passAll reader (request :: requests) =
      ⟨.read request.key :: (passAll reader requests).events,
        (passAll reader requests).result.map (object?.toList ++ ·)⟩ := by
  rw [passAll, answer, Trace.ask_ok_bind, Trace.bind_pure_eq]

/-- After a failure the pass reads nothing more. -/
theorem passAll_cons_of_failure {failure : Failure}
    (answer : request.answer reader = .error failure) :
    passAll reader (request :: requests) = ⟨[.read request.key], .error failure⟩ := by
  rw [passAll, answer, Trace.ask_error_bind]

variable {settings : Settings} {keys : List Key}

/-- Where something is found out about every place, all places are read and what is found is
given. -/
theorem passAll_of_finds {found : Key → Option Resource}
    (finds : ∀ key ∈ keys, reader.Finds key (found key)) :
    passAll reader (keys.map settings.requestAt) =
      ⟨keys.map .read, .ok (keys.filterMap found)⟩ := by
  induction keys with
  | nil => rfl
  | cons key rest ih =>
    obtain ⟨here, there⟩ := List.forall_mem_cons.1 finds
    rw [List.map_cons, passAll_cons_of_answer (Settings.answer_of_finds here), ih there,
      List.filterMap_cons]
    cases found key <;> rfl

/-- Otherwise the places up to the first failure are read, and it is the failure of the pass. -/
theorem passAll_of_failsFirst {before : List Key} {key : Key} {failure : Failure}
    (first : reader.FailsFirst keys before key failure) :
    passAll reader (keys.map settings.requestAt) =
      ⟨(before ++ [key]).map .read, .error (settings.tell key failure)⟩ := by
  obtain ⟨⟨after, rfl⟩, found, fails⟩ := first
  induction before with
  | nil =>
    exact passAll_cons_of_failure (Settings.answer_of_fails fails)
  | cons earlier before ih =>
    obtain ⟨⟨object?, here⟩, there⟩ := List.forall_mem_cons.1 found
    rw [List.cons_append, List.map_cons, passAll_cons_of_answer (Settings.answer_of_finds here),
      ih there]
    rfl

end ReadRequest

/-! ## Before anything is read -/

namespace Instance

variable {reader : Reader} {probe : Except Failure Capabilities} {declaration : Instance}

/-- Why a pass ends before it reads anything, with the questions asked until then. Each reason is
looked for only if those before it do not hold. -/
inductive Refused (probe : Except Failure Capabilities) (declaration : Instance) :
    List Access → Failure → Prop where
  | unnamed (blank : declaration.metadata.name.getD "" = "") :
      Refused probe declaration [] (.invalid "unknown" "Nexus resource has no name" none)
  | unplaced {name : String} (named : declaration.metadata.name = some name) (given : name ≠ "")
      (blank : declaration.metadata.namespaceName.getD "" = "") :
      Refused probe declaration [] (.invalid name "Nexus resource has no namespace" none)
  | invalid {name space : String} {failure : Failure} (named : declaration.Named name space)
      (fault : declaration.spec.validate name = .error failure) :
      Refused probe declaration [] failure
  | unprobed {name space : String} {failure : Failure} (named : declaration.Named name space)
      (valid : declaration.spec.validate name = .ok ()) (silent : probe = .error failure) :
      Refused probe declaration [.probe] failure
  | unattainable {name space : String} {capabilities : Capabilities} {failure : Failure}
      (named : declaration.Named name space) (valid : declaration.spec.validate name = .ok ())
      (told : probe = .ok capabilities)
      (refused : Facet.required (.normalize name space declaration.spec capabilities) capabilities
        .network = .error failure) :
      Refused probe declaration [.probe] failure

/-- None of the reasons to end a pass before it reads anything holds. -/
structure Admitted (probe : Except Failure Capabilities) (declaration : Instance)
    (settings : Settings) (capabilities : Capabilities) : Prop where
  named : declaration.Named settings.name settings.namespaceName
  valid : declaration.spec.validate settings.name = .ok ()
  told : probe = .ok capabilities
  settled : settings =
    .normalize settings.name settings.namespaceName declaration.spec capabilities
  attainable : ∃ exposure, Facet.required settings capabilities .network = .ok exposure

/-- A pass that is refused asks nothing more and ends with the reason. -/
theorem plan_of_refused {asked : List Access} {failure : Failure}
    (refused : declaration.Refused probe asked failure) (reader : Reader) :
    declaration.plan reader probe = ⟨asked, .error failure⟩ := by
  unfold plan
  cases refused with
  | unnamed blank => rw [identity_of_unnamed blank, Trace.of_error_bind]
  | unplaced named given blank => rw [identity_of_unplaced named given blank, Trace.of_error_bind]
  | invalid named fault =>
    rw [identity_eq_ok_iff.2 named, Trace.of_ok_bind]
    dsimp only
    rw [fault, Trace.of_error_bind]
  | unprobed named valid silent =>
    rw [identity_eq_ok_iff.2 named, Trace.of_ok_bind]
    dsimp only
    rw [valid, Trace.of_ok_bind, silent, Trace.ask_error_bind]
  | unattainable named valid told refused =>
    rw [identity_eq_ok_iff.2 named, Trace.of_ok_bind]
    dsimp only
    rw [valid, Trace.of_ok_bind, told, Trace.ask_ok_bind, Facet.checkOwnership_all,
      Trace.of_ok_bind, Settings.required_eq_map, refused]
    rfl

/-- A pass that is admitted asks for the capabilities, reads, and makes a plan of what it finds. -/
theorem plan_of_admitted {settings : Settings} {capabilities : Capabilities}
    (admitted : declaration.Admitted probe settings capabilities) (reader : Reader) :
    ∃ make : List Resource → Plan,
      (∀ objects, (make objects).deployed = ResourceSet.empty.extend objects) ∧
      declaration.plan reader probe =
        ⟨.probe :: (ReadRequest.passAll reader (settings.reads capabilities)).events,
          (ReadRequest.passAll reader (settings.reads capabilities)).result.map make⟩ := by
  obtain ⟨named, valid, told, settled, exposure, attainable⟩ := admitted
  unfold plan
  rw [identity_eq_ok_iff.2 named, Trace.of_ok_bind]
  dsimp only
  rw [valid, Trace.of_ok_bind, told, Trace.ask_ok_bind, ← settled, Facet.checkOwnership_all,
    Trace.of_ok_bind, Settings.required_eq_map, attainable, Except.map, Trace.of_ok_bind,
    Trace.bind_pure_eq]
  refine ⟨_, ?_, rfl⟩
  exact fun _ => rfl

/-- A pass is either refused or admitted. -/
theorem refused_or_admitted (probe : Except Failure Capabilities) (declaration : Instance) :
    (∃ asked failure, declaration.Refused probe asked failure) ∨
      ∃ settings capabilities, declaration.Admitted probe settings capabilities := by
  cases named : Settings.nonEmpty declaration.metadata.name with
  | none => exact .inl ⟨_, _, .unnamed (Settings.nonEmpty_eq_none_iff.1 named)⟩
  | some name =>
    obtain ⟨name_eq, name_ne⟩ := Settings.nonEmpty_eq_some_iff.1 named
    cases placed : Settings.nonEmpty declaration.metadata.namespaceName with
    | none =>
      exact .inl ⟨_, _, .unplaced name_eq name_ne (Settings.nonEmpty_eq_none_iff.1 placed)⟩
    | some space =>
      obtain ⟨space_eq, space_ne⟩ := Settings.nonEmpty_eq_some_iff.1 placed
      have named : declaration.Named name space := ⟨name_eq, name_ne, space_eq, space_ne⟩
      cases valid : declaration.spec.validate name with
      | error failure => exact .inl ⟨_, _, .invalid named valid⟩
      | ok done =>
        cases told : probe with
        | error failure => exact .inl ⟨_, _, .unprobed named valid rfl⟩
        | ok capabilities =>
          cases attained : Facet.required
              (.normalize name space declaration.spec capabilities) capabilities .network with
          | error failure => exact .inl ⟨_, _, .unattainable named valid rfl attained⟩
          | ok exposure => exact .inr ⟨_, _, named, valid, rfl, rfl, exposure, attained⟩

/-- Where the settings of another instance are those of an instance with a change that leaves alone
what is read, a pass over the other instance goes as the pass over the instance, and its plan is the
same with the change made to the settings and to what is wanted. -/
theorem plan_eq_map {other : Instance} (settle : Settings → Settings)
    (adapt : Resource → Resource) (kept : ∀ object, (adapt object).kind = object.kind)
    (identified : other.identity = declaration.identity)
    (checked : ∀ owner, other.spec.validate owner = declaration.spec.validate owner)
    (settled : ∀ name space capabilities,
      Settings.normalize name space other.spec capabilities =
        settle (.normalize name space declaration.spec capabilities))
    (wants : ∀ settings capabilities, (settle settings).required capabilities =
      (settings.required capabilities).map (List.map adapt))
    (reads : ∀ settings capabilities,
      (settle settings).reads capabilities = settings.reads capabilities) :
    other.plan reader probe =
      ⟨(declaration.plan reader probe).events,
        (declaration.plan reader probe).result.map fun plan =>
          { plan with
            settings := settle plan.settings
            required := plan.required.map adapt }⟩ := by
  unfold plan
  rw [identified]
  cases declaration.identity with
  | error failure => rfl
  | ok identity =>
    obtain ⟨owner, space⟩ := identity
    simp only [Trace.of_ok_bind, checked]
    cases declaration.spec.validate owner with
    | error failure => rfl
    | ok _ =>
      simp only [Trace.of_ok_bind]
      cases probe with
      | error failure => rfl
      | ok capabilities =>
        -- What is wanted is changed before anything is read, and the reading is the same.
        simp only [Trace.ask_ok_bind, Facet.checkOwnership_all, Trace.of_ok_bind, settled, wants,
          reads]
        cases Settings.required _ capabilities with
        | error failure => rfl
        | ok wanted =>
          simp only [Except.map, Trace.of_ok_bind, Trace.bind_pure_eq,
            ← ResourceSet.map_extend_empty kept]
          cases (ReadRequest.passAll reader _).result <;> rfl

/-- A pass that is refused asks for no object, and only for the capabilities if the specification is
valid. A pass that is admitted reads its places in their order, each once, and holds what it finds;
at the first place about which nothing is found out it ends with the failure there. -/
theorem asks_in_order (reader : Reader) (probe : Except Failure Capabilities)
    (declaration : Instance) :
    ((∃ asked failure, declaration.Refused probe asked failure) ∨
        ∃ settings capabilities, declaration.Admitted probe settings capabilities) ∧
      (∀ asked failure, declaration.Refused probe asked failure →
        declaration.plan reader probe = ⟨asked, .error failure⟩) ∧
      ∀ settings capabilities, declaration.Admitted probe settings capabilities →
        (settings.keys capabilities).Nodup ∧
        ((∀ key ∈ settings.keys capabilities, ∃ object?, reader.Finds key object?) ∨
          ∃ before key failure,
            reader.FailsFirst (settings.keys capabilities) before key failure) ∧
        (∀ found : Key → Option Resource,
          (∀ key ∈ settings.keys capabilities, reader.Finds key (found key)) →
            ∃ plan, plan.deployed =
                ResourceSet.empty.extend ((settings.keys capabilities).filterMap found) ∧
              declaration.plan reader probe =
                ⟨.probe :: (settings.keys capabilities).map .read, .ok plan⟩) ∧
        ∀ before key failure,
          reader.FailsFirst (settings.keys capabilities) before key failure →
            declaration.plan reader probe =
              ⟨.probe :: (before ++ [key]).map .read, .error (settings.tell key failure)⟩ := by
  refine ⟨refused_or_admitted probe declaration, fun asked failure refused =>
    plan_of_refused refused reader, fun settings capabilities admitted => ?_⟩
  obtain ⟨make, deploys, passed⟩ := plan_of_admitted admitted reader
  rw [Settings.reads_eq_map_keys] at passed
  refine ⟨Settings.nodup_keys, reader.finds_or_failsFirst _, fun found finds => ?_,
    fun before key failure first => ?_⟩
  · rw [passed, ReadRequest.passAll_of_finds finds]
    exact ⟨_, deploys _, rfl⟩
  · rw [passed, ReadRequest.passAll_of_failsFirst first]
    rfl

/-- A reader that may not read services and finds nothing elsewhere. -/
def servicesForbidden : Reader := fun key =>
  if key.kind = .service then .error (.unreadable "Service" key.name "forbidden") else .ok none

/-- Where services may not be read, a pass ends with the service and looks for no route. -/
theorem asks_in_order_of_servicesForbidden :
    (Instance.of (some "nexus3") (some "tools") .blank).plan servicesForbidden
        (.ok ⟨true, true, true⟩) =
      ⟨[.probe, .read ⟨.serviceAccount, "tools", "nexus3"⟩,
          .read ⟨.deployment, "tools", "nexus3"⟩, .read ⟨.service, "tools", "nexus3"⟩],
        .error (.unreadable "Service" "nexus3" "forbidden")⟩ := by
  have admitted : (Instance.of (some "nexus3") (some "tools") .blank).Admitted
      (.ok ⟨true, true, true⟩) (.normalize "nexus3" "tools" .blank ⟨true, true, true⟩)
      ⟨true, true, true⟩ :=
    ⟨⟨rfl, by decide, rfl, by decide⟩, rfl, rfl, rfl, [], rfl⟩
  have first : servicesForbidden.FailsFirst
      ((Settings.normalize "nexus3" "tools" .blank ⟨true, true, true⟩).keys ⟨true, true, true⟩)
      [⟨.serviceAccount, "tools", "nexus3"⟩, ⟨.deployment, "tools", "nexus3"⟩]
      ⟨.service, "tools", "nexus3"⟩ (.unreadable "Service" "nexus3" "forbidden") := by
    refine ⟨⟨_, rfl⟩, fun earlier inside => ⟨none, ?_⟩, .inl rfl⟩
    rcases List.mem_pair.1 inside with rfl | rfl <;> rfl
  obtain ⟨_, _, reads⟩ := asks_in_order servicesForbidden (.ok ⟨true, true, true⟩)
    (Instance.of (some "nexus3") (some "tools") .blank)
  obtain ⟨_, _, _, stops⟩ := reads _ _ admitted
  exact stops _ _ _ first

end Instance

end Converge
