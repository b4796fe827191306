import Converge.Object.Port
import Converge.Codec.Record

/-!
# Containers

A container with its environment, ports, resources, probes and volume mounts. Only what this
library sets is kept; whatever else a stored object has is dropped when it is read.
-/

namespace Converge

/-- A variable of the environment. -/
structure EnvVar where
  name : String
  value : Option String
  deriving DecidableEq

/-- The JSON form of a variable. -/
def EnvVar.codec : Codec EnvVar :=
  .record "EnvVar" (.field (.required "name" .text) <| .field (.optional "value" .text) .done)
    (fun (name, value, ()) => ⟨name, value⟩) (fun ⟨name, value⟩ => (name, value, ()))

/-- A port that a container listens on. -/
structure ContainerPort where
  name : Option String
  containerPort : Int32
  protocol : Option String
  deriving DecidableEq

/-- The JSON form of a port of a container. -/
def ContainerPort.codec : Codec ContainerPort :=
  .record "ContainerPort"
    (.field (.optional "name" .text) <|
      .field (.required "containerPort" .int32) <|
      .field (.optional "protocol" .text) .done)
    (fun (name, port, protocol, ()) => ⟨name, port, protocol⟩)
    (fun ⟨name, port, protocol⟩ => (name, port, protocol, ()))

/-- The resources that a container requests and is limited to, by the names of the resources. -/
structure ContainerResources where
  requests : Dict
  limits : Dict
  deriving DecidableEq

/-- The JSON form of the resources of a container. -/
def ContainerResources.codec : Codec ContainerResources :=
  .record "ResourceRequirements" (.field (.entries "requests") <| .field (.entries "limits") .done)
    (fun (requests, limits, ()) => ⟨requests, limits⟩)
    (fun ⟨requests, limits⟩ => (requests, limits, ()))

/-- A check by a request over HTTP. -/
structure HttpCheck where
  path : String
  port : PortReference
  scheme : Option String
  deriving DecidableEq

/-- The JSON form of a check. -/
def HttpCheck.codec : Codec HttpCheck :=
  .record "HttpGetAction"
    (.field (.required "path" .text) <|
      .field (.required "port" PortReference.codec) <|
      .field (.optional "scheme" .text) .done)
    (fun (path, port, scheme, ()) => ⟨path, port, scheme⟩)
    (fun ⟨path, port, scheme⟩ => (path, port, scheme, ()))

/-- A probe: what is checked, when and how often, and how many answers decide. -/
structure Probe where
  httpGet : Option HttpCheck
  initialDelay : Option Int32
  timeout : Option Int32
  period : Option Int32
  successThreshold : Option Int32
  failureThreshold : Option Int32
  deriving DecidableEq

/-- The JSON form of a probe. -/
def Probe.codec : Codec Probe :=
  .record "Probe"
    (.field (.optional "httpGet" HttpCheck.codec) <|
      .field (.optional "initialDelaySeconds" .int32) <|
      .field (.optional "timeoutSeconds" .int32) <|
      .field (.optional "periodSeconds" .int32) <|
      .field (.optional "successThreshold" .int32) <|
      .field (.optional "failureThreshold" .int32) .done)
    (fun (check, delay, timeout, period, success, failure, ()) =>
      ⟨check, delay, timeout, period, success, failure⟩)
    (fun ⟨check, delay, timeout, period, success, failure⟩ =>
      (check, delay, timeout, period, success, failure, ()))

/-- A volume of the pod, mounted into a container. -/
structure VolumeMount where
  name : String
  mountPath : String
  deriving DecidableEq

/-- The JSON form of a mount. -/
def VolumeMount.codec : Codec VolumeMount :=
  .record "VolumeMount"
    (.field (.required "name" .text) <| .field (.required "mountPath" .text) .done)
    (fun (name, path, ()) => ⟨name, path⟩) (fun ⟨name, path⟩ => (name, path, ()))

/-- A container. -/
structure Container where
  name : String
  image : String
  imagePullPolicy : Option String
  env : List EnvVar
  ports : List ContainerPort
  resources : Option ContainerResources
  livenessProbe : Option Probe
  readinessProbe : Option Probe
  volumeMounts : List VolumeMount
  deriving DecidableEq

/-- The JSON form of a container. -/
def Container.codec : Codec Container :=
  .record "Container"
    (.field (.required "name" .text) <|
      .field (.required "image" .text) <|
      .field (.optional "imagePullPolicy" .text) <|
      .field (.items "env" EnvVar.codec) <|
      .field (.items "ports" ContainerPort.codec) <|
      .field (.optional "resources" ContainerResources.codec) <|
      .field (.optional "livenessProbe" Probe.codec) <|
      .field (.optional "readinessProbe" Probe.codec) <|
      .field (.items "volumeMounts" VolumeMount.codec) .done)
    (fun (name, image, policy, env, ports, resources, liveness, readiness, mounts, ()) =>
      ⟨name, image, policy, env, ports, resources, liveness, readiness, mounts⟩)
    (fun ⟨name, image, policy, env, ports, resources, liveness, readiness, mounts⟩ =>
      (name, image, policy, env, ports, resources, liveness, readiness, mounts, ()))

end Converge
