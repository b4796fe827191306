import Converge.Capabilities
import Converge.ImageReference
import Converge.Instance.Spec

/-!
# Settings

The settings of an instance are its specification with a value for everything that the objects of
the instance are built from. `Settings.normalize` never fails: it fills in what is absent or
empty, raises what is below its least value, and drops what it does not recognise. What cannot be
repaired so is refused by validation.
-/

namespace Converge

/-- Persistence with its size. -/
structure Persistence where
  persistent : Bool
  volumeSize : String
  storageClass : Option String
  deriving DecidableEq

/-- Networking with the way to be reached. -/
structure Networking where
  expose : Bool
  exposeAs : Option Exposure
  host : Option String
  nodePort : Int32
  tls : TlsSpec
  deriving DecidableEq

/-- The way in which an instance is reached, if it is exposed. -/
def Networking.exposure (networking : Networking) : Option Exposure :=
  if networking.expose then networking.exposeAs else none

/-- The settings of an instance. -/
structure Settings where
  name : String
  namespaceName : String
  replicas : UInt32
  image : String
  useRedHatImage : Bool
  imagePullPolicy : Option PullPolicy
  resources : ResourceNeeds
  credentials : Option Credentials
  randomPassword : Bool
  persistence : Persistence
  networking : Networking
  livenessProbe : ProbeTiming
  readinessProbe : ProbeTiming
  serviceAccountName : String
  deriving DecidableEq

namespace Settings

/-- The image of the community, used when none is given. -/
def communityImage : String := "docker.io/sonatype/nexus3:latest"

/-- The certified image, which goes before any other when it is asked for. -/
def certifiedImage : String := "registry.connect.redhat.com/sonatype/nexus-repository-manager"

/-- The size of the volume when none is given. -/
def defaultVolumeSize : String := "10Gi"

/-- The resources when no amount is given. -/
def defaultResources : ResourceNeeds where
  requests := some ⟨some "1", some "2Gi"⟩
  limits := some ⟨some "2", some "2Gi"⟩

/-- The timing of a probe that is not configured. -/
def defaultProbe : ProbeTiming := ⟨30, 15, 10, 1, 3⟩

/-- A text that is not empty. -/
def nonEmpty (text : Option String) : Option String := text.filter fun text => !text.isEmpty

/-- A text that is absent or empty is none. -/
theorem nonEmpty_eq_none_iff {text : Option String} : nonEmpty text = none ↔ text.getD "" = "" := by
  cases text with
  | none => simp [nonEmpty]
  | some text => simp [nonEmpty, Option.filter_some]

/-- A text that is not empty is kept. -/
theorem nonEmpty_eq_some_iff {text : Option String} {value : String} :
    nonEmpty text = some value ↔ text = some value ∧ value ≠ "" := by
  simp [nonEmpty, Option.filter_eq_some_iff]

/-- The image of an instance. -/
def normalizeImage (spec : InstanceSpec) : String :=
  if spec.useRedHatImage then certifiedImage else (nonEmpty spec.image).getD communityImage

/-- The resources of an instance; an amount anywhere keeps them as they are. -/
def normalizeResources : Option ResourceNeeds → ResourceNeeds
  | some needs => if needs.isEmpty then defaultResources else needs
  | none => defaultResources

/-- The timing of a probe; no delay is below zero and nothing else below one. -/
def normalizeProbe : Option ProbeTiming → ProbeTiming
  | none => defaultProbe
  | some timing =>
    { initialDelay := max timing.initialDelay 0
      timeout := max timing.timeout 1
      period := max timing.period 1
      successThreshold := max timing.successThreshold 1
      failureThreshold := max timing.failureThreshold 1 }

/-- The persistence of an instance. -/
def normalizePersistence (persistence : Option PersistenceSpec) : Persistence :=
  let persistence := persistence.getD .blank
  { persistent := persistence.persistent
    volumeSize := (nonEmpty persistence.volumeSize).getD defaultVolumeSize
    storageClass := nonEmpty persistence.storageClass }

/-- The way to be reached that suits a cluster. -/
def defaultExposure (capabilities : Capabilities) : Exposure :=
  if capabilities.openshift && capabilities.routes then .route
  else if capabilities.ingress then .ingress
  else .nodePort

/-- The networking of an instance. -/
def normalizeNetworking (networking : Option NetworkingSpec) (capabilities : Capabilities) :
    Networking :=
  let networking := networking.getD .blank
  { expose := networking.expose
    exposeAs :=
      if networking.exposeAs.isNone && networking.expose then some (defaultExposure capabilities)
      else networking.exposeAs
    host := nonEmpty networking.host
    nodePort := networking.nodePort.getD 0
    tls := networking.tls.getD .blank }

/-- The settings of an instance with a name and a namespace, on a cluster. -/
def normalize (name space : String) (spec : InstanceSpec) (capabilities : Capabilities) :
    Settings where
  name := name
  namespaceName := space
  replicas := spec.replicas
  image := normalizeImage spec
  useRedHatImage := spec.useRedHatImage
  imagePullPolicy := spec.imagePullPolicy.bind PullPolicy.ofName?
  resources := normalizeResources spec.resources
  credentials := spec.credentials
  randomPassword := spec.randomPassword
  persistence := normalizePersistence spec.persistence
  networking := normalizeNetworking spec.networking capabilities
  livenessProbe := normalizeProbe spec.livenessProbe
  readinessProbe := normalizeProbe spec.readinessProbe
  serviceAccountName := (nonEmpty spec.serviceAccountName).getD name

/-- The way in which an instance is reached, if it is exposed. -/
def exposure (settings : Settings) : Option Exposure := settings.networking.exposure

/-- The specification that says all that the settings say. -/
def toSpec (settings : Settings) : InstanceSpec where
  replicas := settings.replicas
  image := some settings.image
  useRedHatImage := settings.useRedHatImage
  imagePullPolicy := settings.imagePullPolicy.map PullPolicy.name
  resources := some settings.resources
  credentials := settings.credentials
  randomPassword := settings.randomPassword
  persistence := some
    { persistent := settings.persistence.persistent
      volumeSize := some settings.persistence.volumeSize
      storageClass := settings.persistence.storageClass }
  networking := some
    { expose := settings.networking.expose
      exposeAs := settings.networking.exposeAs
      host := settings.networking.host
      nodePort := some settings.networking.nodePort
      tls := some settings.networking.tls }
  livenessProbe := some settings.livenessProbe
  readinessProbe := some settings.readinessProbe
  serviceAccountName := some settings.serviceAccountName

/-- An entry that is written only if there is a value. -/
def optionalEntry (key : String) (value : Option Json) : List (String × Json) :=
  (value.map fun value => (key, value)).toList

/-- The JSON form of persistence. -/
def encodePersistence (persistence : Persistence) : Json :=
  .obj <|
    [("persistent", .bool persistence.persistent), ("volumeSize", .str persistence.volumeSize)] ++
      optionalEntry "storageClass" (persistence.storageClass.map .str)

/-- The JSON form of networking. -/
def encodeNetworking (networking : Networking) : Json :=
  .obj <|
    [("expose", .bool networking.expose)] ++
      optionalEntry "exposeAs" (networking.exposeAs.map Exposure.codec.encode) ++
      optionalEntry "host" (networking.host.map .str) ++
      [("nodePort", Codec.int32.encode networking.nodePort),
        ("tls", TlsSpec.codec.encode networking.tls)]

/-- The JSON form of settings. The credentials are left out. -/
def encode (settings : Settings) : Json :=
  .obj <|
    [ ("name", .str settings.name), ("namespace", .str settings.namespaceName),
      ("replicas", Codec.uint32.encode settings.replicas), ("image", .str settings.image),
      ("useRedHatImage", .bool settings.useRedHatImage) ] ++
      optionalEntry "imagePullPolicy" (settings.imagePullPolicy.map fun policy =>
        .str policy.name) ++
      [ ("resources", ResourceNeeds.codec.encode settings.resources),
        ("generateRandomAdminPassword", .bool settings.randomPassword),
        ("persistence", encodePersistence settings.persistence),
        ("networking", encodeNetworking settings.networking),
        ("livenessProbe", ProbeTiming.codec.encode settings.livenessProbe),
        ("readinessProbe", ProbeTiming.codec.encode settings.readinessProbe),
        ("serviceAccountName", .str settings.serviceAccountName) ]

end Settings

end Converge
