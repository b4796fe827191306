import Converge.Instance.Settings
import Converge.JavaFlags
import Converge.Comparison.Workload

/-!
# The workload of an instance

The deployment that runs an instance, and the service in front of its pods.
-/

namespace Converge

/-- The number of the port that the server listens on. -/
def serverPort : Int32 := 8081

/-- The name of the port that the server listens on. -/
def serverPortName : String := "http"

/-- The directory that holds the data. -/
def dataDirectory : String := "/nexus-data"

/-- The path of the request by which the server tells its state. -/
def healthPath : String := "/service/rest/v1/status"

/-- The user and the group that the image of the community runs as. -/
def serverUser : Int64 := 200

/-- The resources of a container for what an instance needs. -/
def ResourceNeeds.toContainer (needs : ResourceNeeds) : ContainerResources :=
  let amounts (side : Option ResourceAmounts) : Dict :=
    let cpu := side.bind (·.cpu)
    let memory := side.bind (·.memory)
    .ofList ((cpu.map fun amount => ("cpu", amount)).toList ++
      (memory.map fun amount => ("memory", amount)).toList)
  ⟨amounts needs.requests, amounts needs.limits⟩

/-- The probe with a timing. -/
def ProbeTiming.toProbe (timing : ProbeTiming) : Probe where
  httpGet := some ⟨healthPath, .number serverPort, some defaultScheme⟩
  initialDelay := some timing.initialDelay
  timeout := some timing.timeout
  period := some timing.period
  successThreshold := some timing.successThreshold
  failureThreshold := some timing.failureThreshold

/-- The name of the volume with the data of an instance. -/
def dataVolumeName (owner : String) : String := owner ++ "-data"

namespace Settings

/-- The container of an instance. -/
def container (settings : Settings) : Container where
  name := "nexus-server"
  image := settings.image
  imagePullPolicy :=
    some (ImageReference.effectivePolicy settings.imagePullPolicy settings.image).name
  env :=
    [ { name := JavaFlags.variableName
        value := some (JavaFlags.render settings.resources.memoryLimit settings.randomPassword) } ]
  ports := [⟨some serverPortName, serverPort, some defaultProtocol⟩]
  resources := some settings.resources.toContainer
  livenessProbe := some settings.livenessProbe.toProbe
  readinessProbe := some settings.readinessProbe.toProbe
  volumeMounts :=
    if settings.persistence.persistent then [⟨dataVolumeName settings.name, dataDirectory⟩] else []

/-- The users and groups of the pods. The certified image sees to the owner of its data itself
when there is a volume, so nothing is asked for then. -/
def securityContext (settings : Settings) : Option SecurityContext :=
  if settings.useRedHatImage && settings.persistence.persistent then none
  else some ⟨some serverUser, some serverUser, [serverUser]⟩

/-- The type of the strategy: a volume of one pod is given up before the next pod takes it. -/
def strategyType (settings : Settings) : String :=
  if settings.persistence.persistent && settings.replicas == 1 then Strategy.recreate
  else Strategy.rollingUpdate

/-- The deployment of an instance. -/
def deployment (settings : Settings) : Deployment :=
  .of (.ofInstance settings.name settings.namespaceName)
    { replicas := settings.replicas.toInt32
      selector := ⟨Metadata.selectorLabels settings.name⟩
      template :=
        { metadata := ⟨Metadata.instanceLabels settings.name⟩
          spec :=
            { serviceAccountName := some settings.serviceAccountName
              containers := [settings.container]
              volumes :=
                if settings.persistence.persistent then
                  [⟨dataVolumeName settings.name, some ⟨settings.name⟩⟩]
                else []
              securityContext := settings.securityContext } }
      strategy := some ⟨some settings.strategyType⟩ }

end Settings

/-- A service after the way to be reached is taken into account: by a port of the nodes it is
reached on that port, and else as before. -/
def Service.withNodePort (service : Service) (networking : Networking) : Service :=
  if networking.exposure = some .nodePort then
    { service with
      spec :=
        { service.spec with
          type := some ServiceSpec.nodePort
          ports := service.spec.ports.map fun port =>
            { port with nodePort := some networking.nodePort } } }
  else service

/-- The service of an instance. -/
def Settings.service (settings : Settings) : Service :=
  let inside : Service :=
    .of (.ofInstance settings.name settings.namespaceName)
      { type := some ServiceSpec.clusterAddress
        selector := Metadata.selectorLabels settings.name
        ports :=
          [ { name := some serverPortName
              port := serverPort
              targetPort := some (.number serverPort)
              protocol := some defaultProtocol
              nodePort := none } ] }
  inside.withNodePort settings.networking

end Converge
