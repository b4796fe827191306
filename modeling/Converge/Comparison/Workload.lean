import Converge.Comparison.Basic
import Converge.ImageReference
import Converge.Object.Deployment
import Converge.Object.Service

/-!
# Comparing deployments and services

A cluster fills in what a deployment or a service leaves open. Each value that it fills in has an
effective form here, in which the default stands for what is absent, and the effective forms are
compared.
-/

namespace Converge

/-- The protocol of a port that names none. -/
def defaultProtocol : String := "TCP"

/-- The scheme of a check that names none. -/
def defaultScheme : String := "HTTP"

/-- A port with its protocol. -/
def ContainerPort.effective (port : ContainerPort) : ContainerPort :=
  { port with protocol := some (port.protocol.getD defaultProtocol) }

/-- A check with its scheme. -/
def HttpCheck.effective (check : HttpCheck) : HttpCheck :=
  { check with scheme := some (check.scheme.getD defaultScheme) }

/-- A probe with its timing. -/
def Probe.effective (probe : Probe) : Probe where
  httpGet := probe.httpGet.map HttpCheck.effective
  initialDelay := some (probe.initialDelay.getD 0)
  timeout := some (probe.timeout.getD 1)
  period := some (probe.period.getD 10)
  successThreshold := some (probe.successThreshold.getD 1)
  failureThreshold := some (probe.failureThreshold.getD 3)

namespace Container

/-- When the image of a container is pulled. -/
def effectivePolicy (container : Container) : PullPolicy :=
  ImageReference.effectivePolicy (container.imagePullPolicy.bind PullPolicy.ofName?)
    container.image

/-- The resources of a container; absent ones are empty. -/
def effectiveResources (container : Container) : ContainerResources :=
  container.resources.getD ⟨.empty, .empty⟩

/-- Whether a container is as wanted. -/
def meets (found wanted : Container) : Bool :=
  found.name == wanted.name && found.image == wanted.image &&
    found.effectivePolicy == wanted.effectivePolicy && found.env == wanted.env &&
    found.ports.map ContainerPort.effective == wanted.ports.map ContainerPort.effective &&
    found.effectiveResources.requests.amountsMeet wanted.effectiveResources.requests &&
    found.effectiveResources.limits.amountsMeet wanted.effectiveResources.limits &&
    found.livenessProbe.map Probe.effective == wanted.livenessProbe.map Probe.effective &&
    found.readinessProbe.map Probe.effective == wanted.readinessProbe.map Probe.effective &&
    found.volumeMounts == wanted.volumeMounts

end Container

/-- Whether what runs in the pods is as wanted. The users and groups count only if they are wanted,
since a platform assigns its own. -/
def PodSpec.meets (found wanted : PodSpec) : Bool :=
  found.serviceAccountName == wanted.serviceAccountName && found.volumes == wanted.volumes &&
    meetsIfWanted found.securityContext wanted.securityContext &&
    meetsPairwise Container.meets found.containers wanted.containers

/-- The type of a strategy; pods are replaced one after the other if none is given. -/
def Strategy.effectiveType (strategy : Option Strategy) : String :=
  (strategy.bind (·.type)).getD rollingUpdate

/-- Whether a deployment is as wanted. -/
def Deployment.meets (found wanted : Deployment) : Bool :=
  found.metadata.meets wanted.metadata && found.spec.replicas == wanted.spec.replicas &&
    found.spec.selector == wanted.spec.selector &&
    wanted.spec.template.metadata.labels.isSubsetOf found.spec.template.metadata.labels &&
    found.spec.template.spec.meets wanted.spec.template.spec &&
    Strategy.effectiveType found.spec.strategy == Strategy.effectiveType wanted.spec.strategy

namespace ServicePort

/-- The port of the pods behind a port; it has the same number if none is given. -/
def effectiveTarget (port : ServicePort) : PortReference := port.targetPort.getD (.number port.port)

/-- The protocol of a port. -/
def effectiveProtocol (port : ServicePort) : String := port.protocol.getD defaultProtocol

/-- Whether a port of a service is as wanted. The port of the nodes counts only if it is wanted,
since a cluster assigns its own. -/
def meets (found wanted : ServicePort) : Bool :=
  found.name == wanted.name && found.port == wanted.port &&
    found.effectiveProtocol == wanted.effectiveProtocol &&
    found.effectiveTarget == wanted.effectiveTarget &&
    meetsIfWanted found.nodePort wanted.nodePort

end ServicePort

/-- The type of a service; it has an address inside the cluster if none is given. -/
def ServiceSpec.effectiveType (spec : ServiceSpec) : String := spec.type.getD clusterAddress

/-- Whether a service is as wanted. -/
def Service.meets (found wanted : Service) : Bool :=
  found.metadata.meets wanted.metadata &&
    found.spec.effectiveType == wanted.spec.effectiveType &&
    found.spec.selector == wanted.spec.selector &&
    meetsPairwise ServicePort.meets found.spec.ports wanted.spec.ports

end Converge
