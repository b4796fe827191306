import Converge.Object.Basic
import Converge.Object.Port

/-!
# Services

A service gives the pods that its selector finds one address with ports.
-/

namespace Converge

/-- A port of a service and the port of the pods behind it. -/
structure ServicePort where
  name : Option String
  port : Int32
  targetPort : Option PortReference
  protocol : Option String
  nodePort : Option Int32
  deriving DecidableEq

/-- The JSON form of a port of a service. -/
def ServicePort.codec : Codec ServicePort :=
  .record "ServicePort"
    (.field (.optional "name" .text) <|
      .field (.required "port" .int32) <|
      .field (.optional "targetPort" PortReference.codec) <|
      .field (.optional "protocol" .text) <|
      .field (.optional "nodePort" .int32) .done)
    (fun (name, port, target, protocol, node, ()) => ⟨name, port, target, protocol, node⟩)
    (fun ⟨name, port, target, protocol, node⟩ => (name, port, target, protocol, node, ()))

/-- How a service is reached, which pods it finds, and its ports. -/
structure ServiceSpec where
  type : Option String
  selector : Dict
  ports : List ServicePort
  deriving DecidableEq

namespace ServiceSpec

/-- The type of a service that is reached inside the cluster; it holds when none is given. -/
def clusterAddress : String := "ClusterIP"

/-- The type of a service that is reached on a port of every node. -/
def nodePort : String := "NodePort"

/-- The JSON form of the specification of a service. -/
def codec : Codec ServiceSpec :=
  .record "ServiceSpec"
    (.field (.optional "type" .text) <|
      .field (.defaulted "selector" .dict .empty) <|
      .field (.defaulted "ports" ServicePort.codec.list []) .done)
    (fun (type, selector, ports, ()) => ⟨type, selector, ports⟩)
    (fun ⟨type, selector, ports⟩ => (type, selector, ports, ()))

end ServiceSpec

/-- A service. -/
abbrev Service := Object ServiceSpec

namespace Service

/-- The version of the interface that has services. -/
def version : String := "v1"

/-- The JSON form of a service. -/
def codec : Codec Service := Object.codec "Service" version ServiceSpec.codec

/-- The service of a specification. -/
def of (metadata : Metadata) (spec : ServiceSpec) : Service :=
  ⟨version, "Service", metadata, spec⟩

end Service

end Converge
