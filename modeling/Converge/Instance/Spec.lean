import Converge.Codec.Record

/-!
# The specification of an instance

What a user writes down about one instance of the repository manager. Nearly everything may be
left out; defaults are filled in later, when it is known what the cluster offers.
-/

namespace Converge

/-- How an instance is reached from outside of its cluster. -/
inductive Exposure where
  | nodePort
  | route
  | ingress
  deriving DecidableEq

namespace Exposure

/-- The name of a way to be reached. -/
def name : Exposure → String
  | nodePort => "NodePort"
  | route => "Route"
  | ingress => "Ingress"

/-- The JSON form of a way to be reached. -/
def codec : Codec Exposure :=
  .choice [("NodePort", nodePort), ("Route", route), ("Ingress", ingress)]

end Exposure

/-- Amounts of processor time and memory. -/
structure ResourceAmounts where
  cpu : Option String
  memory : Option String
  deriving DecidableEq

namespace ResourceAmounts

/-- The JSON form of amounts. -/
def codec : Codec ResourceAmounts :=
  .record "ResourceQuantity"
    (.field (.optional "cpu" .text) <| .field (.optional "memory" .text) .done)
    (fun (cpu, memory, ()) => ⟨cpu, memory⟩) (fun ⟨cpu, memory⟩ => (cpu, memory, ()))

/-- Whether no amount is given. -/
def isEmpty (amounts : ResourceAmounts) : Bool := amounts.cpu.isNone && amounts.memory.isNone

end ResourceAmounts

/-- The amounts that an instance requests and is limited to. -/
structure ResourceNeeds where
  requests : Option ResourceAmounts
  limits : Option ResourceAmounts
  deriving DecidableEq

namespace ResourceNeeds

/-- The JSON form of needs. -/
def codec : Codec ResourceNeeds :=
  .record "ResourceRequirements"
    (.field (.optional "requests" ResourceAmounts.codec) <|
      .field (.optional "limits" ResourceAmounts.codec) .done)
    (fun (requests, limits, ()) => ⟨requests, limits⟩)
    (fun ⟨requests, limits⟩ => (requests, limits, ()))

/-- Whether no amount is given on either side. -/
def isEmpty (needs : ResourceNeeds) : Bool :=
  needs.requests.all ResourceAmounts.isEmpty && needs.limits.all ResourceAmounts.isEmpty

/-- The limit of memory. -/
def memoryLimit (needs : ResourceNeeds) : Option String := needs.limits.bind (·.memory)

end ResourceNeeds

/-- The user that administers an instance. -/
structure Credentials where
  user : String
  password : String
  deriving DecidableEq

/-- The JSON form of credentials. -/
def Credentials.codec : Codec Credentials :=
  .record "AdminCredentials"
    (.field (.required "user" .text) <| .field (.required "password" .text) .done)
    (fun (user, password, ()) => ⟨user, password⟩) (fun ⟨user, password⟩ => (user, password, ()))

/-- Whether and how the data of an instance outlives its pods. -/
structure PersistenceSpec where
  persistent : Bool
  volumeSize : Option String
  storageClass : Option String
  deriving DecidableEq

namespace PersistenceSpec

/-- The JSON form of persistence. -/
def codec : Codec PersistenceSpec :=
  .record "PersistenceSpec"
    (.field (.defaulted "persistent" .bool false) <|
      .field (.optional "volumeSize" .text) <|
      .field (.optional "storageClass" .text) .done)
    (fun (persistent, size, storage, ()) => ⟨persistent, size, storage⟩)
    (fun ⟨persistent, size, storage⟩ => (persistent, size, storage, ()))

/-- Persistence in which nothing is said. -/
def blank : PersistenceSpec := ⟨false, none, none⟩

end PersistenceSpec

/-- Encryption of the way to an instance. -/
structure TlsSpec where
  mandatory : Bool
  secretName : Option String
  deriving DecidableEq

namespace TlsSpec

/-- The JSON form of encryption. -/
def codec : Codec TlsSpec :=
  .record "TlsSpec"
    (.field (.defaulted "mandatory" .bool false) <| .field (.optional "secretName" .text) .done)
    (fun (mandatory, secret, ()) => ⟨mandatory, secret⟩)
    (fun ⟨mandatory, secret⟩ => (mandatory, secret, ()))

/-- Encryption in which nothing is said. -/
def blank : TlsSpec := ⟨false, none⟩

end TlsSpec

/-- Whether and how an instance is reached from outside of its cluster. -/
structure NetworkingSpec where
  expose : Bool
  exposeAs : Option Exposure
  host : Option String
  nodePort : Option Int32
  tls : Option TlsSpec
  deriving DecidableEq

namespace NetworkingSpec

/-- The JSON form of networking. -/
def codec : Codec NetworkingSpec :=
  .record "NetworkingSpec"
    (.field (.defaulted "expose" .bool false) <|
      .field (.optional "exposeAs" Exposure.codec) <|
      .field (.optional "host" .text) <|
      .field (.optional "nodePort" .int32) <|
      .field (.optional "tls" TlsSpec.codec) .done)
    (fun (expose, exposeAs, host, port, tls, ()) => ⟨expose, exposeAs, host, port, tls⟩)
    (fun ⟨expose, exposeAs, host, port, tls⟩ => (expose, exposeAs, host, port, tls, ()))

/-- Networking in which nothing is said. -/
def blank : NetworkingSpec := ⟨false, none, none, none, none⟩

end NetworkingSpec

/-- The timing of a probe; what is not said reads as zero. -/
structure ProbeTiming where
  initialDelay : Int32
  timeout : Int32
  period : Int32
  successThreshold : Int32
  failureThreshold : Int32
  deriving DecidableEq

/-- The JSON form of the timing of a probe. -/
def ProbeTiming.codec : Codec ProbeTiming :=
  .record "ProbeSpec"
    (.field (.defaulted "initialDelaySeconds" .int32 0) <|
      .field (.defaulted "timeoutSeconds" .int32 0) <|
      .field (.defaulted "periodSeconds" .int32 0) <|
      .field (.defaulted "successThreshold" .int32 0) <|
      .field (.defaulted "failureThreshold" .int32 0) .done)
    (fun (delay, timeout, period, success, failure, ()) =>
      ⟨delay, timeout, period, success, failure⟩)
    (fun ⟨delay, timeout, period, success, failure⟩ =>
      (delay, timeout, period, success, failure, ()))

/-- The specification of an instance. -/
structure InstanceSpec where
  replicas : UInt32
  image : Option String
  useRedHatImage : Bool
  imagePullPolicy : Option String
  resources : Option ResourceNeeds
  credentials : Option Credentials
  randomPassword : Bool
  persistence : Option PersistenceSpec
  networking : Option NetworkingSpec
  livenessProbe : Option ProbeTiming
  readinessProbe : Option ProbeTiming
  serviceAccountName : Option String
  deriving DecidableEq

namespace InstanceSpec

/-- The JSON form of a specification. -/
def codec : Codec InstanceSpec :=
  .record "NexusSpec"
    (.field (.defaulted "replicas" .uint32 1) <|
      .field (.optional "image" .text) <|
      .field (.defaulted "useRedHatImage" .bool false) <|
      .field (.optional "imagePullPolicy" .text) <|
      .field (.optional "resources" ResourceNeeds.codec) <|
      .field (.optional "credentials" Credentials.codec) <|
      .field (.defaulted "generateRandomAdminPassword" .bool false) <|
      .field (.optional "persistence" PersistenceSpec.codec) <|
      .field (.optional "networking" NetworkingSpec.codec) <|
      .field (.optional "livenessProbe" ProbeTiming.codec) <|
      .field (.optional "readinessProbe" ProbeTiming.codec) <|
      .field (.optional "serviceAccountName" .text) .done)
    (fun (replicas, image, certified, policy, resources, credentials, random, persistence,
        networking, liveness, readiness, account, ()) =>
      ⟨replicas, image, certified, policy, resources, credentials, random, persistence,
        networking, liveness, readiness, account⟩)
    (fun ⟨replicas, image, certified, policy, resources, credentials, random, persistence,
        networking, liveness, readiness, account⟩ =>
      (replicas, image, certified, policy, resources, credentials, random, persistence,
        networking, liveness, readiness, account, ()))

/-- The specification in which nothing is said. -/
def blank : InstanceSpec :=
  ⟨1, none, false, none, none, none, false, none, none, none, none, none⟩

end InstanceSpec

end Converge
