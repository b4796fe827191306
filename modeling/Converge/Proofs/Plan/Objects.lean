import Converge.Proofs.Object.RoundTrip
import Converge.Proofs.Plan.Pass
import Mathlib.Data.List.Basic

/-!
# Plans, kind by kind

An instance wants at most one object of each kind and has at most one object of each kind read.
`Settings.wanted?`, `Settings.request?` and `Settings.found?` say which, and `Settings.place` says
where: every object has the name of its instance, except for the service account, whose name may be
chosen. What is wanted is read at its own place (`Settings.isRead_of_wanted?`), so what is
wanted and what is found can be set against each other one kind at a time.

`Settings.Attainable` is what the exposure asks of a cluster and of the settings; the facets can
have what they want exactly then.
-/

namespace Converge

namespace Kind

/-- Where at most one item of each kind is gathered, the part of one kind is its item, if any. -/
theorem filter_filterMap_planning {α : Type} (tag : α → Kind) (gather : Kind → Option α)
    (tagged : ∀ kind item, gather kind = some item → tag item = kind) (kind : Kind) :
    (planning.filterMap gather).filter (fun item => tag item == kind) =
      (gather kind).toList := by
  rw [List.filterMap_eq_flatMap_toList]
  refine filter_flatMap nodup_planning kind.mem_planning fun other item inside => ?_
  exact tagged other item (Option.mem_toList.1 inside)

end Kind

namespace Settings

variable {settings : Settings} {capabilities : Capabilities} {reader : Reader}

/-- The name of the object of a kind. -/
def nameOf (settings : Settings) : Kind → String
  | .serviceAccount => settings.serviceAccountName
  | .volumeClaim | .deployment | .service | .route | .ingress => settings.name

/-- The place of the object of a kind. -/
def place (settings : Settings) (kind : Kind) : Key :=
  ⟨kind, settings.namespaceName, settings.nameOf kind⟩

/-- The object of a kind that is wanted. -/
def wanted? (settings : Settings) : Kind → Option Resource
  | .serviceAccount => some (.serviceAccount settings.serviceAccount)
  | .volumeClaim =>
    if settings.persistence.persistent then some (.volumeClaim settings.volumeClaim) else none
  | .deployment => some (.deployment settings.deployment)
  | .service => some (.service settings.service)
  | .route =>
    if settings.exposure = some .route then
      settings.networking.host.map fun host => .route (settings.route host)
    else none
  | .ingress =>
    if settings.exposure = some .ingress then
      settings.networking.host.map fun host => .ingress (settings.ingress host)
    else none

/-- Whether the object of a kind is read. -/
def isRead (settings : Settings) (capabilities : Capabilities) : Kind → Bool
  | .serviceAccount | .deployment | .service => true
  | .volumeClaim => settings.persistence.persistent
  | .route => capabilities.routes
  | .ingress => capabilities.ingress

/-- The request for the object of a kind. -/
def request? (settings : Settings) (capabilities : Capabilities) (kind : Kind) :
    Option ReadRequest :=
  if settings.isRead capabilities kind then
    some ⟨settings.place kind, if kind = .serviceAccount then some settings.name else none⟩
  else none

/-- The object of a kind that is found. -/
def found? (settings : Settings) (capabilities : Capabilities) (reader : Reader) (kind : Kind) :
    Option Resource :=
  (settings.request? capabilities kind).bind (ReadRequest.found? reader)

/-- The exposure can be had: the cluster serves its kind and its host or port is configured. -/
def Attainable (settings : Settings) (capabilities : Capabilities) : Prop :=
  match settings.exposure with
  | none => True
  | some .nodePort => 0 < settings.networking.nodePort
  | some .route => capabilities.routes = true ∧ ∃ host, settings.networking.host = some host
  | some .ingress => capabilities.ingress = true ∧ ∃ host, settings.networking.host = some host

/-! ## What is wanted and where it is read -/

theorem metadata_route (settings : Settings) (host : String) :
    (settings.route host).metadata = .ofInstance settings.name settings.namespaceName := by
  unfold Settings.route
  dsimp only
  split <;> rfl

theorem metadata_service (settings : Settings) :
    settings.service.metadata = .ofInstance settings.name settings.namespaceName := by
  unfold Settings.service Service.withNodePort
  dsimp only
  split <;> rfl

theorem metadata_ingress (settings : Settings) (host : String) :
    (settings.ingress host).metadata =
      (Metadata.ofInstance settings.name settings.namespaceName).annotate
        Ingress.pathTargetKey "/$1" := by
  unfold Settings.ingress
  dsimp only
  split <;> rfl

/-- Encryption does not touch the rules of the ingress of an instance. -/
theorem rules_ingress (settings : Settings) (host : String) :
    (settings.ingress host).spec.rules = (Ingress.toService settings host).spec.rules := by
  unfold Settings.ingress
  dsimp only
  split <;> rfl

/-- What is wanted as an object of a kind is of that kind, and its metadata is that of its instance,
apart from annotations. -/
theorem metadata_of_wanted? {kind : Kind} {object : Resource}
    (wanted : settings.wanted? kind = some object) :
    object.kind = kind ∧ ∃ annotations, object.metadata =
      { Metadata.ownedBy settings.name (settings.nameOf kind) settings.namespaceName with
        annotations } := by
  cases kind <;> simp only [wanted?] at wanted
  case serviceAccount | deployment =>
    cases wanted
    exact ⟨rfl, .empty, rfl⟩
  case service =>
    cases wanted
    exact ⟨rfl, .empty, metadata_service settings⟩
  case volumeClaim =>
    split at wanted <;> cases wanted
    exact ⟨rfl, .empty, rfl⟩
  case route =>
    split at wanted
    · obtain ⟨host, _, rfl⟩ := Option.map_eq_some_iff.1 wanted
      exact ⟨rfl, .empty, metadata_route settings host⟩
    · cases wanted
  case ingress =>
    split at wanted
    · obtain ⟨host, _, rfl⟩ := Option.map_eq_some_iff.1 wanted
      exact ⟨rfl, _, metadata_ingress settings host⟩
    · cases wanted

/-- What is wanted as an object of a kind belongs to the place of the kind. -/
theorem place_of_wanted? {kind : Kind} {object : Resource}
    (wanted : settings.wanted? kind = some object) :
    (⟨object.kind, object.namespaceName, object.name⟩ : Key) = settings.place kind := by
  obtain ⟨made, annotations, metadata⟩ := metadata_of_wanted? wanted
  rw [Resource.namespaceName, Resource.name, metadata, made]
  rfl

/-- What is wanted bears the labels of its instance. -/
theorem labels_of_wanted? {kind : Kind} {object : Resource}
    (wanted : settings.wanted? kind = some object) :
    object.metadata.labels = Metadata.instanceLabels settings.name := by
  obtain ⟨_, annotations, metadata⟩ := metadata_of_wanted? wanted
  rw [metadata]
  rfl

theorem kind_of_wanted? {kind : Kind} {object : Resource}
    (wanted : settings.wanted? kind = some object) : object.kind = kind :=
  congrArg Key.kind (place_of_wanted? wanted)

theorem name_of_wanted? {kind : Kind} {object : Resource}
    (wanted : settings.wanted? kind = some object) : object.name = settings.nameOf kind :=
  congrArg Key.name (place_of_wanted? wanted)

/-- The object of a kind is looked for at the place of the kind. -/
theorem key_of_request? {kind : Kind} {request : ReadRequest}
    (requested : settings.request? capabilities kind = some request) :
    request.key = settings.place kind := by
  unfold request? at requested
  split at requested <;> cases requested
  rfl

/-- Only objects of kinds that are read are looked for. -/
theorem isRead_of_request? {kind : Kind} {request : ReadRequest}
    (requested : settings.request? capabilities kind = some request) :
    settings.isRead capabilities kind = true := by
  unfold request? at requested
  split at requested
  · assumption
  · cases requested

/-- What is wanted of attainable settings is read. -/
theorem isRead_of_wanted? (attainable : settings.Attainable capabilities) {kind : Kind}
    {object : Resource} (wanted : settings.wanted? kind = some object) :
    settings.isRead capabilities kind = true := by
  unfold Attainable at attainable
  cases kind <;> simp only [wanted?, isRead] at wanted ⊢
  case volumeClaim =>
    split at wanted
    · assumption
    · cases wanted
  case route | ingress =>
    split at wanted
    · next exposed =>
      simp only [exposed] at attainable
      exact attainable.1
    · cases wanted

private theorem toList_request? (settings : Settings) (capabilities : Capabilities) (kind : Kind) :
    (settings.request? capabilities kind).toList =
      if settings.isRead capabilities kind then
        [⟨settings.place kind, if kind = .serviceAccount then some settings.name else none⟩]
      else [] := by
  unfold request?
  split <;> rfl

/-- The requests are made in planning order, one for each kind that is read. -/
theorem reads_eq_filterMap (settings : Settings) (capabilities : Capabilities) :
    settings.reads capabilities = Kind.planning.filterMap (settings.request? capabilities) := by
  rw [List.filterMap_eq_flatMap_toList]
  simp only [toList_request?, Kind.planning, List.flatMap_cons, List.flatMap_nil, isRead, if_true,
    reduceCtorEq, if_false]
  simp only [reads, Facet.all, List.flatMap_cons, List.flatMap_nil, Facet.reads, Facet.readOwn,
    place, nameOf, List.append_nil, List.cons_append, List.nil_append]

/-! ## When the facets can have what they want -/

private theorem bind_eq_ok_iff {ε α β : Type} {first : Except ε α} {next : α → Except ε β}
    {value : β} :
    (first >>= next) = .ok value ↔ ∃ between, first = .ok between ∧ next between = .ok value := by
  cases first with
  | error _ => simp [bind, Except.bind]
  | ok _ => simp [bind, Except.bind]

private theorem requireServed_eq_ok_iff {served : Bool} {kind : Kind} {done : Unit} :
    Facet.requireServed settings served kind = .ok done ↔ served = true := by
  cases served <;> simp [Facet.requireServed]

private theorem requireHost_eq_ok_iff {host : String} :
    Facet.requireHost settings = .ok host ↔ settings.networking.host = some host := by
  unfold Facet.requireHost
  cases settings.networking.host <;> simp

/-- The objects that expose an instance can be had exactly when the exposure is attainable. -/
theorem requiredExposure_eq_ok_iff {objects : List Resource} :
    Facet.requiredExposure settings capabilities = .ok objects ↔
      settings.Attainable capabilities ∧
        objects = (settings.wanted? .route).toList ++ (settings.wanted? .ingress).toList := by
  unfold Facet.requiredExposure Attainable wanted?
  cases settings.exposure with
  | none => simp [eq_comm]
  | some exposure =>
    cases exposure with
    | nodePort =>
      by_cases open' : settings.networking.nodePort ≤ 0
      · have closed : ¬ 0 < settings.networking.nodePort := Int32.not_lt.2 open'
        simp [open', closed]
      · have configured : 0 < settings.networking.nodePort := Int32.not_le.1 open'
        simp [open', configured, eq_comm]
    | route | ingress =>
      simp only [bind_eq_ok_iff, requireServed_eq_ok_iff, requireHost_eq_ok_iff, pure,
        Except.pure, Except.ok.injEq]
      constructor
      · rintro ⟨_, served, host, configured, rfl⟩
        exact ⟨⟨served, host, configured⟩, by simp [configured]⟩
      · rintro ⟨⟨served, host, configured⟩, rfl⟩
        exact ⟨(), served, host, configured, by simp [configured]⟩

/-- Everything that the other facets want can be had, so only exposure can be refused. -/
theorem required_eq_map (settings : Settings) (capabilities : Capabilities) :
    settings.required capabilities =
      (Facet.required settings capabilities .network).map fun exposure =>
        [.serviceAccount settings.serviceAccount] ++
          (if settings.persistence.persistent then [.volumeClaim settings.volumeClaim] else []) ++
          [.deployment settings.deployment, .service settings.service] ++ exposure := by
  simp only [required, Facet.all, List.mapM_cons, List.mapM_nil, Facet.required]
  cases Facet.requiredExposure settings capabilities with
  | error failure => rfl
  | ok exposure => simp [bind, Except.bind, pure, Except.pure, Except.map]

/-- The facets can have what they want exactly when the exposure is attainable, and then they want
one object of each kind in planning order. -/
theorem required_eq_ok_iff {objects : List Resource} :
    settings.required capabilities = .ok objects ↔
      settings.Attainable capabilities ∧
        objects = Kind.planning.filterMap settings.wanted? := by
  have gathered : Kind.planning.filterMap settings.wanted? =
      [.serviceAccount settings.serviceAccount] ++
        (if settings.persistence.persistent then [.volumeClaim settings.volumeClaim] else []) ++
        [.deployment settings.deployment, .service settings.service] ++
        ((settings.wanted? .route).toList ++ (settings.wanted? .ingress).toList) := by
    rw [List.filterMap_eq_flatMap_toList]
    cases persistent : settings.persistence.persistent <;>
      simp [Kind.planning, wanted?, persistent]
  rw [gathered, required_eq_map, Facet.required]
  constructor
  · intro had
    cases exposed : Facet.requiredExposure settings capabilities with
    | error failure =>
      rw [exposed] at had
      cases had
    | ok exposure =>
      obtain ⟨attainable, rfl⟩ := requiredExposure_eq_ok_iff.1 exposed
      rw [exposed] at had
      exact ⟨attainable, (Except.ok.inj had).symm⟩
  · rintro ⟨attainable, rfl⟩
    rw [requiredExposure_eq_ok_iff.2 ⟨attainable, rfl⟩]
    rfl

end Settings

end Converge
