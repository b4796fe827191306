import Converge.Comparison.Registry
import Converge.Facet.Exposure
import Converge.Facet.Identity
import Converge.Facet.Storage

/-!
# Facets of an instance

The objects of an instance fall into four facets, each with the kinds that it owns; no kind may have
two owners. For settings and a cluster a facet says which objects are wanted, or why they cannot be
had, and which objects are to be read, so that what is no longer wanted is seen.
-/

namespace Converge

/-- A facet of an instance. -/
inductive Facet where
  | identity
  | storage
  | compute
  | network
  deriving DecidableEq

/-- The place of an object in a cluster. -/
structure Key where
  kind : Kind
  namespaceName : String
  name : String
  deriving DecidableEq

/-- An object to be read: its place, and the instance that a failure to read it is told of, if
that is not the name of the object. -/
structure ReadRequest where
  key : Key
  owner : Option String
  deriving DecidableEq

namespace Facet

/-- All facets in the order in which they are asked. -/
def all : List Facet := [identity, storage, compute, network]

/-- The name of a facet. -/
def name : Facet → String
  | identity => "identity"
  | storage => "storage"
  | compute => "compute"
  | network => "network"

/-- The kinds that a facet owns. -/
def kinds : Facet → List Kind
  | identity => [.serviceAccount]
  | storage => [.volumeClaim]
  | compute => [.deployment, .service]
  | network => [.route, .ingress]

/-- The kinds that facets own, each with its owner. -/
def ownerships (facets : List Facet) : List (Kind × Facet) :=
  facets.flatMap fun facet => facet.kinds.map fun kind => (kind, facet)

/-- Adds kinds with their owners to those that are known, and refuses the first kind that has an
owner already. -/
def settleOwners (owners : List (Kind × Facet)) : List (Kind × Facet) → Except Failure Unit
  | [] => .ok ()
  | (kind, facet) :: rest =>
    match owners.lookup kind with
    | some previous =>
      .error (.internal
        s!"{kind.name} is owned by both the {previous.name} and {facet.name} managers" "supervisor")
    | none => settleOwners ((kind, facet) :: owners) rest

/-- Refuses facets of which two own the same kind. -/
def checkOwnership (facets : List Facet) : Except Failure Unit :=
  settleOwners [] (ownerships facets)

/-- Refuses a kind that the cluster does not serve. -/
def requireServed (settings : Settings) (served : Bool) (kind : Kind) : Except Failure Unit :=
  if served then .ok () else .error (.unavailable settings.name kind.name)

/-- The host that an instance is reached at. -/
def requireHost (settings : Settings) : Except Failure String :=
  match settings.networking.host with
  | some host => .ok host
  | none =>
    let mode := (settings.networking.exposeAs.map Exposure.name).getD ""
    .error (.invalidField settings.name "spec.networking.host"
      s!"host is required when exposing as {mode}")

/-- The objects that expose an instance. -/
def requiredExposure (settings : Settings) (capabilities : Capabilities) :
    Except Failure (List Resource) :=
  match settings.exposure with
  | none => .ok []
  | some .nodePort =>
    if settings.networking.nodePort ≤ 0 then
      .error (.invalidField settings.name "spec.networking.nodePort"
        "a node port is required when exposing as NodePort")
    else .ok []
  | some .route => do
    requireServed settings capabilities.routes .route
    let host ← requireHost settings
    return [.route (settings.route host)]
  | some .ingress => do
    requireServed settings capabilities.ingress .ingress
    let host ← requireHost settings
    return [.ingress (settings.ingress host)]

/-- The objects of a facet that are wanted. -/
def required (settings : Settings) (capabilities : Capabilities) :
    Facet → Except Failure (List Resource)
  | identity => .ok [.serviceAccount settings.serviceAccount]
  | storage =>
    .ok (if settings.persistence.persistent then [.volumeClaim settings.volumeClaim] else [])
  | compute => .ok [.deployment settings.deployment, .service settings.service]
  | network => requiredExposure settings capabilities

/-- The reading of the object of a kind that has the name of its instance. -/
def readOwn (settings : Settings) (kind : Kind) : ReadRequest :=
  ⟨⟨kind, settings.namespaceName, settings.name⟩, none⟩

/-- The objects of a facet that are to be read. A claim that is left behind when persistence is
switched off holds data, so it is not looked for; objects of exposure are looked for wherever the
cluster serves their kind, so that a change of the way to be reached leaves nothing behind. -/
def reads (settings : Settings) (capabilities : Capabilities) : Facet → List ReadRequest
  | identity =>
    [⟨⟨.serviceAccount, settings.namespaceName, settings.serviceAccountName⟩, some settings.name⟩]
  | storage => if settings.persistence.persistent then [readOwn settings .volumeClaim] else []
  | compute => [readOwn settings .deployment, readOwn settings .service]
  | network =>
    (if capabilities.routes then [readOwn settings .route] else []) ++
      (if capabilities.ingress then [readOwn settings .ingress] else [])

/-- The kinds of all facets, each of which brings its comparison. -/
def ownedKinds : List Kind := all.flatMap kinds

/-- The facets own all kinds, so each kind is compared by its own comparison. -/
theorem compare_ownedKinds (kind : Kind) :
    (Registry.ofKinds ownedKinds).compare kind = Comparison.ofKind kind := by
  cases kind <;> rfl

end Facet

end Converge
